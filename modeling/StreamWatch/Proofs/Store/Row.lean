/-
**A row tells the record it was written from.**

A record has a place in the table when its bit rates and its number of channels fit their columns, and
when its frame rate is a number. Then its row can be written, and reading the row gives it back.

* `Metrics.Fits`: what has a place in the table;
* `ofStats_eq_ok`: the row of a record can be written;
* `toStats_rowOf`: the record of that row is the one it was written from.
-/

import Mathlib.Data.Int.Basic
import StreamWatch.Store.Row

namespace StreamWatch

/-- Whether metrics have a place in the table and come back from there as they were. -/
structure Metrics.Fits (metrics : Metrics) : Prop where
  bitrate : ∀ n ∈ metrics.bitrate, n.toNat < Number.signedBound
  videoBitrate : ∀ n ∈ metrics.videoBitrate, n.toNat < Number.signedBound
  frameRate : ∀ x ∈ metrics.frameRate, x.isFinite = true
  audioChannels : ∀ n ∈ metrics.audioChannels, n.toNat < Number.signedHalfBound

theorem Metrics.fits_empty : ({} : Metrics).Fits := by
  constructor <;> exact fun _ member => nomatch member

/-! ### Cells -/

namespace Cell

theorem optional_of_ne_null {α : Type} (read : Cell → Except StoreError α) {cell : Cell}
    (filled : cell ≠ .null) : optional read cell = (read cell).map some := by
  cases cell with
  | null => exact absurd rfl filled
  | integer | real | text | blob | instant => rfl

/-- A cell that may be empty is read as it was written. -/
theorem optional_ofOption {α β : Type} {read : Cell → Except StoreError β} {write : α → Cell}
    {f : α → β} {value : Option α}
    (back : ∀ a ∈ value, write a ≠ .null ∧ read (write a) = .ok (f a)) :
    optional read (ofOption write value) = .ok (value.map f) := by
  cases value with
  | none => rfl
  | some a =>
    obtain ⟨filled, same⟩ := back a rfl
    rw [ofOption, optional_of_ne_null read filled, same]
    rfl

theorem optional_text (value : Option String) :
    optional toText (ofOption text value) = .ok value := by
  have back : ∀ string ∈ value, text string ≠ .null ∧ toText (text string) = .ok (id string) :=
    fun _ _ => ⟨nofun, rfl⟩
  rw [optional_ofOption back, Option.map_id, id]

theorem optional_bool (value : Option Bool) :
    optional toBool (ofOption ofBool value) = .ok value := by
  have back : ∀ b ∈ value, ofBool b ≠ .null ∧ toBool (ofBool b) = .ok (id b) :=
    fun b _ => ⟨nofun, by cases b <;> rfl⟩
  rw [optional_ofOption back, Option.map_id, id]

theorem optional_real {value : Option Binary64} (finite : ∀ x ∈ value, x.isFinite = true) :
    optional toReal (ofOption ofReal value) = .ok value := by
  have kept : ∀ x ∈ value, ofReal x = real x := fun x member =>
    if_neg fun ⟨infinite, _⟩ => by
      have isFinite := finite x member
      rw [Binary64.isFinite, infinite] at isFinite
      exact nomatch isFinite
  have back : ∀ x ∈ value, ofReal x ≠ .null ∧ toReal (ofReal x) = .ok (id x) := fun x member => by
    rw [kept x member]
    exact ⟨nofun, rfl⟩
  rw [optional_ofOption back, Option.map_id, id]

end Cell

namespace Row

/-! ### Columns -/

theorem optionalBitrate_eq_ok {value : Option UInt64} (fits : ∀ n ∈ value, n.toNat < Number.signedBound) :
    optionalBitrate value = .ok (.ofOption (fun n => .integer n.toNat) value) := by
  cases value with
  | none => rfl
  | some n => exact if_pos (fits n rfl)

theorem optional_bitrate (value : Option UInt64) :
    Cell.optional Cell.toInteger (.ofOption (fun n => .integer n.toNat) value) =
      .ok (value.map fun n => (n.toNat : Int)) :=
  Cell.optional_ofOption fun _ _ => ⟨nofun, rfl⟩

/-- Whatever the number of channels, its cell holds a number of the column. -/
theorem optional_channelsCell (value : Option UInt32) :
    Cell.optional Cell.toHalf (.ofOption channelsCell value) =
      .ok (value.map fun n => Int.bmod n.toNat Number.halfBound) := by
  refine Cell.optional_ofOption fun n _ => ⟨nofun, ?_⟩
  have within : -(2147483648 : Int) ≤ Int.bmod n.toNat 4294967296 ∧
      Int.bmod n.toNat 4294967296 < 2147483648 := by
    rw [Int.bmod_def]
    split <;> omega
  have isHalf : Number.isSignedHalf (Int.bmod n.toNat Number.halfBound) = true := by
    rw [Number.isSignedHalf, Bool.and_eq_true, decide_eq_true_eq, decide_eq_true_eq]
    exact within
  rw [channelsCell, Cell.toHalf, if_pos isHalf]

/-- A number of channels within 31 bits is kept as it is. -/
theorem channelsCell_eq {channels : UInt32} (fits : channels.toNat < Number.signedHalfBound) :
    channelsCell channels = .integer channels.toNat := by
  have small : (channels.toNat : Int) < 2147483648 := Int.ofNat_lt.mpr fits
  have same : Int.bmod channels.toNat 4294967296 = channels.toNat := by
    rw [Int.bmod_def]
    split <;> omega
  rw [channelsCell, Number.halfBound, same]

theorem toHalf_natCast {n : Nat} (fits : n < Number.signedHalfBound) :
    Cell.toHalf (.integer n) = .ok (n : Int) := by
  have least : -(Number.signedHalfBound : Int) ≤ n := by omega
  have within : Number.isSignedHalf n = true := by
    rw [Number.isSignedHalf, Bool.and_eq_true, decide_eq_true_eq, decide_eq_true_eq]
    exact ⟨least, Int.ofNat_lt.mpr fits⟩
  rw [Cell.toHalf, if_pos within]

theorem optional_channels {value : Option UInt32} (fits : ∀ n ∈ value, n.toNat < Number.signedHalfBound) :
    Cell.optional Cell.toHalf (.ofOption channelsCell value) =
      .ok (value.map fun n => (n.toNat : Int)) := by
  refine Cell.optional_ofOption fun n member => ?_
  rw [channelsCell_eq (fits n member)]
  exact ⟨nofun, toHalf_natCast (fits n member)⟩

theorem statusOf_name (status : ProbeStatus) : statusOf status.name = .ok status := by
  cases status <;> rfl

/-! ### Rows -/

/-- The row of a record whose bit rates have a place in the table. -/
theorem ofStats_of_rates {stats : StreamStats}
    (bitrate : ∀ n ∈ stats.metrics.bitrate, n.toNat < Number.signedBound)
    (videoBitrate : ∀ n ∈ stats.metrics.videoBitrate, n.toNat < Number.signedBound) :
    ofStats stats = .ok
      { status := .text stats.status.name
        resolution := .ofOption .text stats.metrics.resolution
        bitrate := .ofOption (fun n => .integer n.toNat) stats.metrics.bitrate
        videoBitrate := .ofOption (fun n => .integer n.toNat) stats.metrics.videoBitrate
        frameRate := .ofOption .ofReal stats.metrics.frameRate
        audioChannels := .ofOption channelsCell stats.metrics.audioChannels
        videoCodec := .ofOption .text stats.metrics.videoCodec
        audioCodec := .ofOption .text stats.metrics.audioCodec
        isBlackScreen := .ofOption .ofBool stats.isBlackScreen
        streak := .integer (min stats.consecutiveFailures.toNat maxStreak)
        lastError := .ofOption .text stats.lastError
        probedAt := .instant stats.lastProbedAt } := by
  unfold ofStats
  rw [optionalBitrate_eq_ok bitrate, optionalBitrate_eq_ok videoBitrate]
  rfl

/-- The row of a record that has a place in the table. -/
def rowOf (stats : StreamStats) : Row := (ofStats stats).toOption.getD default

theorem ofStats_eq_ok {stats : StreamStats} (fits : stats.metrics.Fits) :
    ofStats stats = .ok (rowOf stats) := by
  rw [rowOf, ofStats_of_rates fits.bitrate fits.videoBitrate]
  rfl

/-- The cells of a record that has a place in the table. -/
theorem rowOf_eq {stats : StreamStats} (fits : stats.metrics.Fits) :
    rowOf stats =
      { status := .text stats.status.name
        resolution := .ofOption .text stats.metrics.resolution
        bitrate := .ofOption (fun n => .integer n.toNat) stats.metrics.bitrate
        videoBitrate := .ofOption (fun n => .integer n.toNat) stats.metrics.videoBitrate
        frameRate := .ofOption .ofReal stats.metrics.frameRate
        audioChannels := .ofOption channelsCell stats.metrics.audioChannels
        videoCodec := .ofOption .text stats.metrics.videoCodec
        audioCodec := .ofOption .text stats.metrics.audioCodec
        isBlackScreen := .ofOption .ofBool stats.isBlackScreen
        streak := .integer (min stats.consecutiveFailures.toNat maxStreak)
        lastError := .ofOption .text stats.lastError
        probedAt := .instant stats.lastProbedAt } := by
  rw [rowOf, ofStats_of_rates fits.bitrate fits.videoBitrate]
  rfl

/-- **A row tells the record it was written from.** -/
theorem toStats_rowOf {stats : StreamStats} (fits : stats.metrics.Fits)
    (short : stats.consecutiveFailures.toNat ≤ maxStreak) :
    (rowOf stats).toStats stats.streamId = .ok stats := by
  have counted : stats.consecutiveFailures.toNat < Number.signedHalfBound := Nat.lt_succ_of_le short
  have words : ∀ value : Option UInt64,
      (value.map fun n => (n.toNat : Int)).map (fun n => UInt64.ofNat n.toNat) = value := by
    intro value
    cases value <;> simp
  have halves : ∀ value : Option UInt32,
      (value.map fun n => (n.toNat : Int)).map (fun n => UInt32.ofNat n.toNat) = value := by
    intro value
    cases value <;> simp
  have streak : (min stats.consecutiveFailures.toNat maxStreak : Int) =
      stats.consecutiveFailures.toNat := Int.min_eq_left (Int.ofNat_le.mpr short)
  rw [rowOf_eq fits, toStats]
  simp only [Cell.optional_text, optional_bitrate, Cell.optional_real fits.frameRate,
    optional_channels fits.audioChannels, Cell.optional_bool, streak, toHalf_natCast counted,
    Cell.toText, Cell.toInstant, statusOf_name, bind, Except.bind, words, halves, Int.toNat_natCast,
    UInt32.ofNat_toNat]
  rfl

end Row
end StreamWatch
