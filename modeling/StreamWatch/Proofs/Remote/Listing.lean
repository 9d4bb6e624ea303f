/-
**What comes of a listing that is asked for at once.**

Guide sources and accounts are asked for with one request, which is answered with a plain list or with the first page
of a listing that goes on. Everything that this one answer holds is taken, in its order. Pages that it leads on to are
never asked for, so what is on them is missing.

* `decodeListing_list`, `decodeListing_page`: what is read of either kind of answer;
* `HandsOut`, `HandsPages`: a remote that has a listing in one answer, or in pages;
* `listings_bringFirst`: what comes of the listing is what the first answer holds;
* `not_forall_whole`: of a listing in pages that is not all of it.
-/

import Mathlib.Data.List.Basic
import StreamWatch.Proofs.Json.Members
import StreamWatch.Proofs.Steps
import StreamWatch.Remote.Http

namespace StreamWatch

open Json Text

variable {α : Type}

/-! ### Reading records -/

namespace Json

section
variable {β : Type} {f : Fields (α → β)} {x : Fields α} {number : Nat} {source : Source} {name : String}
  {decode : Decoder α}

theorem read_seq_of_fault (fault : ∃ misfit, f.read number source = .error misfit) :
    ∃ misfit, (f <*> x).read number source = .error misfit := by
  obtain ⟨misfit, fault⟩ := fault
  rw [Fields.read_seq, fault]
  cases x.read (number + f.count) source with
  | ok value => exact ⟨misfit, rfl⟩
  | error other => exact ⟨_, rfl⟩

theorem read_map_of_fault {g : α → β} (fault : ∃ misfit, x.read number source = .error misfit) :
    ∃ misfit, (g <$> x).read number source = .error misfit := by
  obtain ⟨misfit, fault⟩ := fault
  rw [read_map, fault]
  exact ⟨misfit, rfl⟩

theorem read_required_of_fault {values : List Json}
    (fault : ∀ value, values[0]? = some value → ∀ x, decode value ≠ .ok x) :
    ∃ misfit, (Fields.required name decode).read 0 (.items values) = .error misfit := by
  simp only [Fields.required, Fields.field]
  cases found : values[0]? with
  | none => exact ⟨_, rfl⟩
  | some value =>
    cases read : decode value with
    | ok x => exact absurd read (fault value found x)
    | error error => exact ⟨_, congrArg (Except.mapError _) read⟩

/-- A list is no record when a field of the record cannot be read from it. -/
theorem decode_list_of_fault {values : List Json} (fault : ∃ misfit, x.read 0 (.items values) = .error misfit)
    (value : α) : x.decode (.list values) ≠ .ok value := by
  obtain ⟨misfit, fault⟩ := fault
  simp [Fields.decode, fault]

theorem read_seq_of_ok {g : α → β} {value : α} (first : f.read number source = .ok g)
    (second : x.read (number + f.count) source = .ok value) : (f <*> x).read number source = .ok (g value) := by
  rw [Fields.read_seq, first, second]
  rfl

theorem read_map_of_ok {g : α → β} {value : α} (read : x.read number source = .ok value) :
    (g <$> x).read number source = .ok (g value) := by
  rw [read_map, read]
  rfl

/-- A field that is not among the members of an object is what it is when absent. -/
theorem read_absent {members : SortedMap String Json} (absent : members.get? name = none) (value : α)
    (absentItem : Option α) :
    (Fields.field [name] decode (some value) absentItem).read number (.members members.entries) = .ok value := by
  have none : Fields.occurrences [name] members.entries = [] := by
    rw [occurrences_eq]
    refine List.filterMap_eq_nil_iff.mpr fun entry member => if_neg fun same => ?_
    have there : (name, entry.1.2) ∈ members.entries := by
      rw [same]
      exact List.fst_mem_of_mem_zipIdx member
    rw [← SortedMap.get?_eq_some_iff, absent] at there
    cases there
  simp only [Fields.field, none]

/-- A field with a value of its own can be read when what is there can. -/
theorem read_withDefault {members : SortedMap String Json}
    (readable : ∀ value, members.get? name = some value → ∃ x, decode value = .ok x) (default : α) :
    ∃ x, (Fields.withDefault name decode default).read number (.members members.entries) = .ok x := by
  cases found : members.get? name with
  | none => exact ⟨default, read_absent found default _⟩
  | some value =>
    obtain ⟨x, read⟩ := readable value found
    refine ⟨x, (read_field found decode _ _ number).trans ?_⟩
    rw [read]
    rfl

end

/-- Whether a reader reads no value both as one item and as a list of items. -/
def Decoder.IsSingle (item : Decoder α) : Prop :=
  ∀ value found, item value = .ok found → ∀ items, Decoder.list item value ≠ .ok items

theorem readable_head {item : Decoder α} {values : List Json} {items : List α} (read : values.mapM item = .ok items)
    {value : Json} (found : values[0]? = some value) : ∃ x, item value = .ok x := by
  cases values with
  | nil => cases found
  | cons head rest =>
    cases found
    rw [List.mapM_cons] at read
    obtain ⟨x, readable, -⟩ := steps_of_bind_eq_ok read
    exact ⟨x, readable⟩

/-- A record that begins with a number is no list of such records, since a number is none of them. -/
theorem isSingle_of_number {fields : Fields α}
    (numbered : ∀ values : List Json, (∀ value, values[0]? = some value → ∀ n, Decoder.signedWord value ≠ .ok n) →
      ∃ misfit, fields.read 0 (.items values) = .error misfit) : Decoder.IsSingle fields.decode := by
  intro value record read items listed
  cases value with
  | list values =>
    refine decode_list_of_fault (numbered values fun head found n number => ?_) record read
    obtain ⟨first, readable⟩ := readable_head listed found
    cases head with
    | int k => cases readable
    | _ => cases number
  | _ => cases listed

theorem isSingle_account : Decoder.IsSingle Account.decode :=
  isSingle_of_number fun _ unnumbered =>
    read_seq_of_fault (read_seq_of_fault (read_map_of_fault (read_required_of_fault unnumbered)))

theorem isSingle_guideSource : Decoder.IsSingle GuideSource.decode :=
  isSingle_of_number fun _ unnumbered =>
    read_seq_of_fault (read_seq_of_fault (read_seq_of_fault (read_seq_of_fault
      (read_map_of_fault (read_required_of_fault unnumbered)))))

end Json

/-! ### Reading listings -/

/-- **A plain list is read as such**: its first item is none that could be the items of a page. -/
theorem decodeListing_list {item : Decoder α} (single : item.IsSingle) {values : List Json} {items : List α}
    (read : values.mapM item = .ok items) : decodeListing item (.list values) = .ok items := by
  have noPage : ∀ page, Page.decode item (.list values) ≠ .ok page :=
    decode_list_of_fault <| read_seq_of_fault <| read_seq_of_fault <| read_map_of_fault <|
      read_required_of_fault fun value found => by
        obtain ⟨x, readable⟩ := readable_head read found
        exact single value x readable
  unfold decodeListing
  cases decoded : Page.decode item (.list values) with
  | ok page => exact absurd decoded (noPage page)
  | error error => exact read

/-- The members of a page: its items, and, when another page follows, where that is. -/
structure IsPage (item : Decoder α) (items : List α) (leadsOn : Prop) (members : SortedMap String Json) : Prop where
  results : ∃ values, members.get? "results" = some (.list values) ∧ values.mapM item = .ok items
  counted : ∀ value, members.get? "count" = some value → ∃ count, Decoder.natural value = .ok count
  linked : leadsOn → ∃ link, members.get? "next" = some (.str link)
  last : ¬ leadsOn → members.get? "next" = none ∨ members.get? "next" = some .null

/-- **Of a page its items are read**, whether or not it leads on. -/
theorem decodeListing_page {item : Decoder α} {items : List α} {leadsOn : Prop} {members : SortedMap String Json}
    (page : IsPage item items leadsOn members) : decodeListing item (.object members.entries) = .ok items := by
  obtain ⟨values, found, readable⟩ := page.results
  have next : ∀ value, members.get? "next" = some value → ∃ link, Decoder.option Decoder.string value = .ok link := by
    intro value there
    by_cases more : leadsOn
    · obtain ⟨link, linked⟩ := page.linked more
      cases there.symm.trans linked
      exact ⟨some link, rfl⟩
    · obtain absent | null := page.last more
      · cases there.symm.trans absent
      · cases there.symm.trans null
        exact ⟨none, rfl⟩
  have results : (Fields.required "results" (Decoder.list item)).read 0 (.members members.entries) = .ok items := by
    refine (read_field found _ _ _ 0).trans ?_
    rw [show Decoder.list item (.list values) = .ok items from readable]
    rfl
  obtain ⟨count, counted⟩ := read_withDefault page.counted 0
  obtain ⟨link, linked⟩ := read_withDefault next none
  have decoded : Page.decode item (.object members.entries) = .ok ⟨items, count, link⟩ :=
    congrArg (Except.mapError _) (read_seq_of_ok (read_seq_of_ok (read_map_of_ok results) counted) linked)
  rw [decodeListing, decoded]

/-! ### Remotes with listings -/

namespace HttpRemote

/-- Whether a request is answered with a document. -/
def Brings (transport : Transport) (call : RemoteCall) (request : HttpRequest) (value : Json) : Prop :=
  ∃ response, transport request = some response ∧ (200 ≤ response.status ∧ response.status ≤ 299) ∧
    document call response = .ok value

/-- The request for one page of what another request asks for. -/
def pageRequest (request : HttpRequest) (number : Nat) : HttpRequest :=
  { request with query := [("page", toString number)] }

/-- A remote that answers a request with a plain list of items. -/
def HandsOut (item : Decoder α) (call : RemoteCall) (transport : Transport) (request : HttpRequest) (items : List α) :
    Prop :=
  ∃ values, Brings transport call request (.list values) ∧ values.mapM item = .ok items

/-- A remote that answers a request with the first of some pages, each of which can be asked for by its number. Each but
the last leads on to the next. -/
structure HandsPages (item : Decoder α) (call : RemoteCall) (transport : Transport) (request : HttpRequest)
    (pages : List (List α)) : Prop where
  first : ∀ items, pages[0]? = some items →
    ∃ members : SortedMap String Json, Brings transport call request (.object members.entries) ∧
      IsPage item items (1 < pages.length) members
  numbered : ∀ number items, pages[number]? = some items →
    ∃ members : SortedMap String Json,
      Brings transport call (pageRequest request (number + 1)) (.object members.entries) ∧
      IsPage item items (number + 1 < pages.length) members

/-- **What comes of a listing that is asked for at once.** -/
structure BringsFirst (item : Decoder α) (call : RemoteCall) (remote : HttpRemote)
    (answer : Transport → Except RemoteError (List α)) : Prop where
  /-- A plain list comes whole. -/
  plain : ∀ {transport : Transport} {request : HttpRequest} {items : List α}, remote.request call = .ok request →
    HandsOut item call transport request items → answer transport = .ok items
  /-- Of a listing in pages the first page comes. -/
  paged : ∀ {transport : Transport} {request : HttpRequest} {first : List α} {rest : List (List α)},
    remote.request call = .ok request → HandsPages item call transport request (first :: rest) →
      answer transport = .ok first
  /-- So all of it comes only when there is nothing on the other pages. -/
  whole_iff : ∀ {transport : Transport} {request : HttpRequest} {first : List α} {rest : List (List α)},
    remote.request call = .ok request → HandsPages item call transport request (first :: rest) →
      (answer transport = .ok (first :: rest).flatten ↔ ∀ page ∈ rest, page = [])
  /-- Nothing else is asked for. -/
  once : ∀ {transport other : Transport} {request : HttpRequest}, remote.request call = .ok request →
    transport request = other request → answer transport = answer other

/-- A listing that is read from the answer to one request. -/
theorem bringsFirst_of_answered {item : Decoder α} {call : RemoteCall} {remote : HttpRemote}
    {answer : Transport → Except RemoteError (List α)} (single : item.IsSingle)
    (answered : ∀ {transport : Transport} {request : HttpRequest} {value : Json} {items : List α},
      remote.request call = .ok request → Brings transport call request value →
        decodeListing item value = .ok items → answer transport = .ok items)
    (once : ∀ {transport other : Transport} {request : HttpRequest}, remote.request call = .ok request →
      transport request = other request → answer transport = answer other) :
    BringsFirst item call remote answer := by
  have paged : ∀ {transport : Transport} {request : HttpRequest} {first : List α} {rest : List (List α)},
      remote.request call = .ok request → HandsPages item call transport request (first :: rest) →
        answer transport = .ok first := by
    intro transport request first rest asked pages
    obtain ⟨members, brought, page⟩ := pages.first first rfl
    exact answered asked brought (decodeListing_page page)
  refine ⟨?_, paged, ?_, once⟩
  · rintro transport request items asked ⟨values, brought, read⟩
    exact answered asked brought (decodeListing_list single read)
  · intro transport request first rest asked pages
    rw [paged asked pages, Except.ok.injEq, List.flatten_cons, List.self_eq_append_right, List.flatten_eq_nil_iff]

theorem decoded_of_document {decode : Decoder α} {call : RemoteCall} {response : HttpResponse} {value : Json} {x : α}
    (told : document call response = .ok value) (read : decode value = .ok x) :
    decoded decode call response = .ok x := by
  simp only [decoded, told, bind, Except.bind, read, pure, Except.pure]

/-- A call other than one for no streams is answered by what the response to its request tells. -/
theorem answer_eq_readAnswer {remote : HttpRemote} {transport : Transport} {call : RemoteCall} {request : HttpRequest}
    {response : HttpResponse} (needed : call ≠ .streamsByIds []) (asked : remote.request call = .ok request)
    (carried : transport request = some response) (fine : 200 ≤ response.status ∧ response.status ≤ 299) :
    remote.answer transport call = readAnswer response call := by
  unfold answer
  split
  · exact absurd rfl needed
  · simp only [asked, bind, Except.bind, answerOf, carried, HttpRemote.read, if_pos fine]

/-- A call is answered by the response to its request alone. -/
theorem answer_congr {remote : HttpRemote} {transport other : Transport} {call : RemoteCall} {request : HttpRequest}
    (asked : remote.request call = .ok request) (same : transport request = other request) :
    remote.answer transport call = remote.answer other call := by
  unfold answer
  split
  · rfl
  · simp only [asked, bind, Except.bind, answerOf, same]

theorem bringsFirst_guideSources (remote : HttpRemote) :
    BringsFirst GuideSource.decode .guideSources remote (remote.answer · .guideSources) := by
  refine bringsFirst_of_answered isSingle_guideSource ?_ answer_congr
  rintro transport request value items asked ⟨response, carried, fine, told⟩ read
  exact (answer_eq_readAnswer (by simp) asked carried fine).trans (decoded_of_document told read)

theorem bringsFirst_accounts (remote : HttpRemote) :
    BringsFirst Account.decode .accounts remote (remote.answer · .accounts) := by
  refine bringsFirst_of_answered isSingle_account ?_ answer_congr
  rintro transport request value items asked ⟨response, carried, fine, told⟩ read
  exact (answer_eq_readAnswer (by simp) asked carried fine).trans (decoded_of_document told read)

/-- **What comes of the listings of guide sources and of accounts**, wherever the remote is: what the first answer holds,
and no more. -/
theorem listings_bringFirst (remote : HttpRemote) :
    BringsFirst GuideSource.decode .guideSources remote (remote.answer · .guideSources) ∧
    BringsFirst Account.decode .accounts remote (remote.answer · .accounts) :=
  ⟨bringsFirst_guideSources remote, bringsFirst_accounts remote⟩

/-! ### A listing in two pages -/

theorem toList_loop (bytes : ByteArray) (place : Nat) (done : List UInt8) :
    ByteArray.toList.loop bytes place done = done.reverse ++ bytes.data.toList.drop place := by
  fun_induction ByteArray.toList.loop with
  | case1 place done inside ih =>
    have within : place < bytes.data.toList.length := inside
    rw [ih, List.drop_eq_getElem_cons within]
    simp [ByteArray.get!, getElem!_pos, inside]
  | case2 place done outside =>
    rw [List.drop_of_length_le (Nat.le_of_not_lt outside), List.append_nil]

theorem toList_toByteArray (bytes : List UInt8) : bytes.toByteArray.toList = bytes := by
  rw [ByteArray.toList, toList_loop, List.data_toByteArray]
  rfl

/-- The bytes of a text whose characters are below 128. -/
def plainBytes (text : List Char) : List UInt8 := text.map fun c => UInt8.ofNat c.toNat

theorem decodeLossy_plainBytes {text : List Char} (plain : text.all (·.toNat < 0x80) = true) :
    decodeLossy (plainBytes text) = text := by
  induction text with
  | nil => simp [plainBytes, decodeLossy]
  | cons c rest ih =>
    simp only [List.all_cons, Bool.and_eq_true, decide_eq_true_eq] at plain
    have small : (UInt8.ofNat c.toNat).toNat = c.toNat := by
      rw [UInt8.toNat_ofNat', Nat.mod_eq_of_lt]
      omega
    have later : decodeLossy (rest.map fun c => UInt8.ofNat c.toNat) = rest := ih plain.2
    rw [plainBytes, List.map_cons, decodeLossy_ascii _ _ (small.symm ▸ plain.1), small, later, Char.ofNat_toNat]

theorem flatMap_utf8EncodeChar {text : List Char} (plain : text.all (·.toNat < 0x80) = true) :
    text.flatMap String.utf8EncodeChar = plainBytes text := by
  induction text with
  | nil => rfl
  | cons c rest ih =>
    simp only [List.all_cons, Bool.and_eq_true, decide_eq_true_eq] at plain
    have one : String.utf8EncodeChar c = [UInt8.ofNat c.toNat] := if_pos (Nat.le_of_lt_succ plain.1)
    rw [List.flatMap_cons, one, ih plain.2]
    rfl

/-- A document in plain characters is read from its bytes. -/
theorem document_plainBytes {text : List Char} (plain : text.all (·.toNat < 0x80) = true) {value : Json}
    (read : readValue? (2 * text.length + 2) 128 (skipBlank text) = some (value, [])) (call : RemoteCall)
    (status : Nat) : document call ⟨status, plainBytes text⟩ = .ok value := by
  have sound : (String.ofList text).toUTF8.toList = plainBytes text := by
    rw [String.toUTF8, String.toByteArray_ofList, List.utf8Encode, toList_toByteArray, flatMap_utf8EncodeChar plain]
  have found : Json.read? (String.ofList text) = some value := by
    simp only [Json.read?, String.toList_ofList, read]
    rfl
  simp only [document, decodeLossy_plainBytes plain, sound, if_true, found]

/-- A remote with nothing before its paths. -/
def nearby : HttpRemote := ⟨⟨"http", some "127.0.0.1", some ['/']⟩, none⟩

/-- The request for the accounts. -/
def askingAccounts : HttpRequest :=
  ⟨"GET", ⟨"http", some "127.0.0.1", some "/api/m3u/accounts/".toList⟩, [], none, none⟩

/-- The first of two pages, with one account and a link to the next page. -/
def firstPage : List Char :=
  ['\x7b', '"', 'n', 'e', 'x', 't', '"', ':', '"', '?', 'p', 'a', 'g', 'e', '=', '2', '"', ',', '"', 'r', 'e',
   's', 'u', 'l', 't', 's', '"', ':', '[', '\x7b', '"', 'i', 'd', '"', ':', '1', ',', '"', 'n', 'a', 'm', 'e',
   '"', ':', '"', 'A', '"', '\x7d', ']', '\x7d']

/-- The second of two pages, with one account. -/
def secondPage : List Char :=
  ['\x7b', '"', 'n', 'e', 'x', 't', '"', ':', 'n', 'u', 'l', 'l', ',', '"', 'r', 'e', 's', 'u', 'l', 't', 's',
   '"', ':', '[', '\x7b', '"', 'i', 'd', '"', ':', '2', ',', '"', 'n', 'a', 'm', 'e', '"', ':', '"', 'B', '"',
   '\x7d', ']', '\x7d']

/-- A remote with two accounts, one on a page. -/
def twoPages : Transport := fun request =>
  some ⟨200, plainBytes (if request.query = [("page", "2")] then secondPage else firstPage)⟩

/-- The account on the first page. -/
def firstAccount : Account := ⟨1, "A", true⟩

/-- The account on the second page. -/
def secondAccount : Account := ⟨2, "B", true⟩

/-- The account on a page as a document value. -/
def written (id : Int) (name : String) : Json := .object [("id", .int id), ("name", .str name)]

/-- The members of the first page. -/
def firstMembers : SortedMap String Json :=
  ⟨[("next", .str "?page=2"), ("results", .list [written 1 "A"])], by decide⟩

/-- The members of the second page. -/
def secondMembers : SortedMap String Json :=
  ⟨[("next", .null), ("results", .list [written 2 "B"])], by decide⟩

theorem brings_firstPage {request : HttpRequest} (other : request.query ≠ [("page", "2")]) :
    Brings twoPages .accounts request (.object firstMembers.entries) := by
  refine ⟨_, congrArg (fun text => some (HttpResponse.mk 200 (plainBytes text))) (if_neg other), by decide, ?_⟩
  exact document_plainBytes (by decide) rfl .accounts 200

theorem brings_secondPage {request : HttpRequest} (same : request.query = [("page", "2")]) :
    Brings twoPages .accounts request (.object secondMembers.entries) := by
  refine ⟨_, congrArg (fun text => some (HttpResponse.mk 200 (plainBytes text))) (if_pos same), by decide, ?_⟩
  exact document_plainBytes (by decide) rfl .accounts 200

theorem isPage_first : IsPage Account.decode [firstAccount] (1 < 2) firstMembers where
  results := ⟨[written 1 "A"], rfl, rfl⟩
  counted value found := by cases found
  linked _ := ⟨"?page=2", rfl⟩
  last none := absurd (by decide) none

theorem isPage_second : IsPage Account.decode [secondAccount] (2 < 2) secondMembers where
  results := ⟨[written 2 "B"], rfl, rfl⟩
  counted value found := by cases found
  linked more := absurd more (by decide)
  last _ := .inr rfl

theorem handsPages_twoPages :
    HandsPages Account.decode .accounts twoPages askingAccounts [[firstAccount], [secondAccount]] where
  first items found := by
    cases found
    exact ⟨firstMembers, brings_firstPage (by decide), isPage_first⟩
  numbered number items found := by
    match number with
    | 0 =>
      cases found
      exact ⟨firstMembers, brings_firstPage (by decide), isPage_first⟩
    | 1 =>
      cases found
      exact ⟨secondMembers, brings_secondPage rfl, isPage_second⟩
    | number + 2 => cases found

/-- **Of a listing in pages not all of it comes.** -/
theorem not_forall_whole : ¬ ∀ (remote : HttpRemote) (transport : Transport) (request : HttpRequest)
    (pages : List (List Account)), remote.request .accounts = .ok request →
      HandsPages Account.decode .accounts transport request pages →
        remote.answer transport .accounts = .ok pages.flatten := by
  intro whole
  have asked : nearby.request .accounts = .ok askingAccounts := rfl
  have all := whole nearby twoPages askingAccounts _ asked handsPages_twoPages
  have first : nearby.answer twoPages .accounts = .ok [firstAccount] :=
    (bringsFirst_accounts nearby).paged asked handsPages_twoPages
  rw [first] at all
  cases all

end HttpRemote
end StreamWatch
