import StreamOtter.Base64Url
import StreamOtter.IncidentSteps
import StreamOtter.PagedWalk

/-!
# The pages of the incident list

Both stores list their incidents in the order in which they were stored, page by page.  The
SQLite store looks one incident beyond its page to see whether another one follows; the memory
store goes on from the place where its page was full, whether or not one does.
-/

namespace StreamOtter

open FailureStore

inductive StateFilter
  | opened | resolved | all
  deriving DecidableEq, Repr

/-- A limit that is no integer is refused like one that is out of range. -/
structure IncidentQuery where
  sourceId : Option String := none
  state : Option StateFilter := none
  limit : Option ℤ := none
  cursor : Option String := none

structure IncidentPage where
  items : List IncidentRecord
  nextCursor : Option String

namespace IncidentQuery

/-- The filters, on the source and the state of an incident. -/
def takes (query : IncidentQuery) (sourceId : String) (state : IncidentState) : Bool :=
  (query.sourceId.all fun wanted => sourceId = wanted) &&
    match query.state.getD .opened with
    | .all => true
    | .opened => state = .opened
    | .resolved => state = .resolved

def selects (query : IncidentQuery) (record : IncidentRecord) : Bool :=
  query.takes record.sourceId record.state

end IncidentQuery

namespace FailureStore

def clampLimit : Option ℤ → Except Refusal ℕ
  | none => .ok 50
  | some limit =>
      if limit < 1 ∨ 200 < limit then
        .error ⟨some .invalidRequest, "limit must be an integer from 1 to 200.", none, none, []⟩
      else .ok limit.toNat

/-! ### Cursors: a letter of the store and a number -/

def encodeCursorAs (letter : Char) (number : ℕ) : String :=
  ByteCodec.base64Url (ByteCodec.utf8 (String.ofList (letter :: ':' :: Nat.toDigits 10 number)))

/-- `/^letter:(\d{1,digits})$/`. -/
def cursorNumber (letter : Char) (digits : ℕ) : List Char → Option ℕ
  | first :: ':' :: number =>
      if first = letter ∧ 1 ≤ number.length ∧ number.length ≤ digits ∧
          number.all Char.isDigit then
        some (Nat.ofDigitChars 10 number 0)
      else none
  | _ => none

def decodeCursorAs (letter : Char) (digits : ℕ) : Option String → Except Refusal ℕ
  | none => .ok 0
  | some cursor =>
      match cursorNumber letter digits
        (ByteCodec.ofUtf8 (ByteCodec.ofBase64Url cursor)).toList with
      | some number => .ok number
      | none => .error ⟨some .invalidRequest, "Invalid cursor.", none, none, []⟩

theorem cursorNumber_toDigits {letter : Char} {digits number : ℕ} (hdigits : 0 < digits) :
    cursorNumber letter digits (letter :: ':' :: Nat.toDigits 10 number) =
      if number < 10 ^ digits then some number else none := by
  have hpositive : 1 ≤ (Nat.toDigits 10 number).length := Nat.length_toDigits_pos
  have hall : (Nat.toDigits 10 number).all Char.isDigit = true := by
    rw [List.all_eq_true]
    intro c hc
    exact Nat.isDigit_of_mem_toDigits (by omega) (by omega) hc
  have hlength : (Nat.toDigits 10 number).length ≤ digits ↔ number < 10 ^ digits :=
    Nat.length_toDigits_le_iff (by omega) hdigits
  have hvalue : Nat.ofDigitChars 10 (Nat.toDigits 10 number) 0 = number :=
    Nat.ofDigitChars_toDigits (by omega) (by omega)
  unfold cursorNumber
  simp only [hpositive, hall, hlength, hvalue, true_and, and_true]

theorem decodeCursorAs_encodeCursorAs {letter : Char} {digits number : ℕ} (hdigits : 0 < digits) :
    decodeCursorAs letter digits (some (encodeCursorAs letter number)) =
      if number < 10 ^ digits then .ok number
      else .error ⟨some .invalidRequest, "Invalid cursor.", none, none, []⟩ := by
  unfold decodeCursorAs encodeCursorAs
  dsimp only
  rw [ByteCodec.ofBase64Url_base64Url, ByteCodec.ofUtf8_utf8, String.toList_ofList,
    cursorNumber_toDigits hdigits]
  by_cases hnumber : number < 10 ^ digits
  · simp only [if_pos hnumber]
  · simp only [if_neg hnumber]

end FailureStore

/-! ### The lists -/

namespace MemoryIncidentStore

def encodeCursor (index : ℕ) : String := encodeCursorAs 'm' index

def decodeCursor (cursor : Option String) : Except Refusal ℕ := decodeCursorAs 'm' 9 cursor

/-- The loop of `list`, over the IDs from an index on. -/
def listFrom (query : IncidentQuery) (limit : ℕ) (s : MemoryIncidentStore) :
    List String → ℕ → List IncidentRecord → IncidentPage
  | [], _, items => ⟨items, none⟩
  | failureId :: rest, index, items =>
      if items.length < limit then
        match s.incidents.get failureId with
        | none => listFrom query limit s rest (index + 1) items
        | some record =>
            if query.selects record then
              listFrom query limit s rest (index + 1) (items ++ [record])
            else listFrom query limit s rest (index + 1) items
      else ⟨items, some (encodeCursor index)⟩

def list (query : IncidentQuery) (s : MemoryIncidentStore) : Except Refusal IncidentPage := do
  let limit ← clampLimit query.limit
  let start ← decodeCursor query.cursor
  .ok (listFrom query limit s (s.order.drop start) start [])

/-- The incidents in the order in which they were stored. -/
def stored (s : MemoryIncidentStore) : List IncidentRecord := s.order.filterMap s.incidents.get

end MemoryIncidentStore

namespace SqliteIncidentStore

def encodeCursor (seq : ℕ) : String := encodeCursorAs 'j' seq

def decodeCursor (cursor : Option String) : Except Refusal ℕ := decodeCursorAs 'j' 15 cursor

def list (query : IncidentQuery) (s : SqliteIncidentStore) : Except Refusal IncidentPage := do
  let limit ← clampLimit query.limit
  let after ← decodeCursor query.cursor
  let rows := ((s.incidents.select fun row => query.takes row.sourceId row.state).filter
    fun row => after < row.1).take (limit + 1)
  let page := rows.take limit
  .ok {
    items := page.map fun row => row.2.record
    nextCursor :=
      if limit < rows.length then page.getLast?.map fun row => encodeCursor row.1 else none }

def stored (s : SqliteIncidentStore) : List IncidentRecord :=
  s.incidents.contents.map (·.record)

end SqliteIncidentStore

/-! ### One page -/

/-- The incidents from a place on that a query selects. -/
def matching (query : IncidentQuery) (records : List IncidentRecord) (start : ℕ) :
    List IncidentRecord :=
  (records.drop start).filter query.selects

/-- A page that starts at a place and stops before another one. -/
structure PageOf (query : IncidentQuery) (encode : ℕ → String) (records : List IncidentRecord)
    (start limit : ℕ) (page : IncidentPage) (stop : ℕ) : Prop where
  le : start ≤ stop
  items : page.items = ((records.take stop).drop start).filter query.selects
  bounded : page.items.length ≤ limit
  ended : page.nextCursor = none → records.length ≤ stop
  goesOn : ∀ c, page.nextCursor = some c → c = encode stop ∧ page.items.length = limit

namespace PageOf

variable {query : IncidentQuery} {encode : ℕ → String} {records : List IncidentRecord}
  {start limit stop : ℕ} {page : IncidentPage}

theorem matching_eq (h : PageOf query encode records start limit page stop) :
    matching query records start =
      page.items ++ (records.drop stop).filter query.selects := by
  have hsplit : records.drop start = (records.take stop).drop start ++ records.drop stop := by
    have hdrop := congrArg (List.drop start) (List.take_append_drop stop records)
    rw [List.drop_append] at hdrop
    rw [← hdrop, List.length_take]
    by_cases hstop : stop ≤ records.length
    · have hzero : start - min stop records.length = 0 := by
        have hle := h.le
        omega
      rw [hzero, List.drop_zero]
    · rw [List.drop_eq_nil_of_le (by omega : records.length ≤ stop), List.drop_nil]
  rw [matching, hsplit, List.filter_append, h.items]

/-- A page holds the first of the incidents that match. -/
theorem items_eq (h : PageOf query encode records start limit page stop) :
    page.items = (matching query records start).take limit := by
  rw [h.matching_eq]
  cases hnext : page.nextCursor with
  | none =>
      have hlength := h.ended hnext
      rw [List.drop_eq_nil_of_le hlength, List.filter_nil, List.append_nil]
      exact (List.take_of_length_le h.bounded).symm
  | some c =>
      obtain ⟨-, hfull⟩ := h.goesOn c hnext
      rw [← hfull, List.take_left]

end PageOf

namespace MemoryIncidentStore

variable {s : MemoryIncidentStore}

/-- How far the loop of `list` goes: to the end, or to the place where the page is full. -/
theorem listFrom_spec
    (query : IncidentQuery) {limit : ℕ} {rest : List IncidentRecord}
    (hget : ∀ record ∈ rest, s.incidents.get record.failureId = some record) (index : ℕ)
    {items : List IncidentRecord} (hroom : items.length ≤ limit) :
    ∃ n ≤ rest.length, ∃ page, listFrom query limit s (rest.map (·.failureId)) index items = page ∧
      page.items = items ++ (rest.take n).filter query.selects ∧ page.items.length ≤ limit ∧
      (n = rest.length ∧ page.nextCursor = none ∧
          (∀ last, rest.getLast? = some last → query.selects last = false →
            page.items.length < limit) ∨
        n < rest.length ∧ page.nextCursor = some (encodeCursor (index + n)) ∧
          page.items.length = limit) := by
  induction rest generalizing index items with
  | nil => exact ⟨0, Nat.le_refl 0, _, rfl, by simp [listFrom], by simpa [listFrom] using hroom,
      .inl ⟨rfl, rfl, by simp⟩⟩
  | cons record rest ih =>
      have hrecord := hget record List.mem_cons_self
      have hrest : ∀ other ∈ rest, s.incidents.get other.failureId = some other :=
        fun other hother => hget other (List.mem_cons_of_mem _ hother)
      rw [List.map_cons]
      unfold listFrom
      by_cases hlimit : items.length < limit
      · rw [if_pos hlimit, hrecord]
        dsimp only
        cases hselected : query.selects record with
        | true =>
            have hroom' : (items ++ [record]).length ≤ limit := by
              rw [List.length_append, List.length_singleton]
              omega
            obtain ⟨n, hn, page, hpage, hitems, hbound, hend⟩ := ih hrest (index + 1) hroom'
            refine ⟨n + 1, by simpa using hn, page, hpage, ?_, hbound, ?_⟩
            · rw [hitems, List.take_succ_cons, List.filter_cons_of_pos hselected]
              simp
            · rcases hend with ⟨rfl, hnone, hshort⟩ | ⟨hlt, hnext, hfull⟩
              · refine .inl ⟨rfl, hnone, ?_⟩
                intro last hlast hunwanted
                apply hshort last ?_ hunwanted
                cases rest with
                | nil =>
                    obtain rfl : record = last := by simpa using hlast
                    rw [hselected] at hunwanted
                    cases hunwanted
                | cons second rest => simpa using hlast
              · refine .inr ⟨by simpa using hlt, ?_, hfull⟩
                rw [hnext, Nat.add_assoc, Nat.add_comm 1]
        | false =>
            obtain ⟨n, hn, page, hpage, hitems, hbound, hend⟩ := ih hrest (index + 1) hroom
            refine ⟨n + 1, by simpa using hn, page, hpage, ?_, hbound, ?_⟩
            · rw [hitems, List.take_succ_cons, List.filter_cons_of_neg (by simp [hselected])]
            · rcases hend with ⟨rfl, hnone, hshort⟩ | ⟨hlt, hnext, hfull⟩
              · refine .inl ⟨rfl, hnone, ?_⟩
                intro last hlast hunwanted
                cases rest with
                | nil =>
                    rw [hitems]
                    simpa using hlimit
                | cons second rest => exact hshort last (by simpa using hlast) hunwanted
              · refine .inr ⟨by simpa using hlt, ?_, hfull⟩
                rw [hnext, Nat.add_assoc, Nat.add_comm 1]
      · rw [if_neg hlimit]
        have hfull : items.length = limit := by omega
        exact ⟨0, Nat.zero_le _, _, rfl, by simp, hroom, .inr ⟨by simp, rfl, hfull⟩⟩

end MemoryIncidentStore

section Numbers

variable {α : Type*}

theorem zipIdx_beyond (l : List α) {k after : ℕ} (hle : k ≤ after) :
    ((l.zipIdx (k + 1)).filter fun entry => after < entry.2) =
      (l.drop (after - k)).zipIdx (after + 1) := by
  induction l generalizing k with
  | nil => simp
  | cons first rest ih =>
      by_cases hk : k = after
      · subst hk
        rw [Nat.sub_self, List.drop_zero, List.filter_eq_self]
        intro entry hentry
        have hle := List.le_snd_of_mem_zipIdx hentry
        simp only [decide_eq_true_eq]
        omega
      · have hskip : after - k = after - (k + 1) + 1 := by omega
        rw [List.zipIdx_cons, List.filter_cons_of_neg (by simp; omega), hskip,
          List.drop_succ_cons]
        exact ih (by omega)

/-- The number of the `n`th of the selected entries says how far they reach. -/
theorem take_selected
    (p : α → Bool) (l : List α) (k : ℕ) {n : ℕ} (hpositive : 1 ≤ n)
    (hn : n ≤ (l.filter p).length) :
    ∃ m ≤ l.length, (l.take m).filter p = (l.filter p).take n ∧
      (((l.zipIdx (k + 1)).filter fun entry => p entry.1).take n).getLast?.map Prod.snd =
        some (k + m) := by
  induction l generalizing k n with
  | nil =>
      rw [List.filter_nil, List.length_nil] at hn
      omega
  | cons first rest ih =>
      cases hfirst : p first with
      | true =>
          rw [List.filter_cons_of_pos hfirst] at hn ⊢
          have hentry : (((first :: rest).zipIdx (k + 1)).filter fun entry => p entry.1) =
              (first, k + 1) :: (rest.zipIdx (k + 1 + 1)).filter fun entry => p entry.1 := by
            simp [hfirst]
          rw [hentry]
          obtain ⟨n, rfl⟩ : ∃ n', n = n' + 1 := ⟨n - 1, by omega⟩
          rw [List.take_succ_cons, List.take_succ_cons]
          rw [List.length_cons, Nat.add_le_add_iff_right] at hn
          by_cases hzero : n = 0
          · subst hzero
            exact ⟨1, by simp, by simp [hfirst], by simp⟩
          · obtain ⟨m, hm, htaken, hlast⟩ := ih (k + 1) (by omega) hn
            refine ⟨m + 1, by simpa using hm, ?_, ?_⟩
            · rw [List.take_succ_cons, List.filter_cons_of_pos hfirst, htaken]
            · obtain ⟨entry, hentry, hnumber⟩ := Option.map_eq_some_iff.mp hlast
              rw [List.getLast?_cons, hentry]
              simp only [Option.getD_some, Option.map_some, hnumber]
              congr 1
              omega
      | false =>
          have hskip : ¬p first = true := by simp [hfirst]
          rw [List.filter_cons_of_neg hskip] at hn ⊢
          have hentry : (((first :: rest).zipIdx (k + 1)).filter fun entry => p entry.1) =
              (rest.zipIdx (k + 1 + 1)).filter fun entry => p entry.1 := by
            simp [hfirst]
          rw [hentry]
          obtain ⟨m, hm, htaken, hlast⟩ := ih (k + 1) hpositive hn
          refine ⟨m + 1, by simpa using hm, ?_, ?_⟩
          · rw [List.take_succ_cons, List.filter_cons_of_neg hskip, htaken]
          · rw [hlast]
            congr 1
            omega

end Numbers

theorem clampLimit_ok {limit : Option ℤ} {n : ℕ} (h : clampLimit limit = .ok n) : 1 ≤ n := by
  cases limit with
  | none =>
      have hfifty : 50 = n := Except.ok.inj h
      omega
  | some limit =>
      by_cases hrange : limit < 1 ∨ 200 < limit
      · simp only [clampLimit, if_pos hrange] at h
        cases h
      · simp only [clampLimit, if_neg hrange] at h
        have hlimit : limit.toNat = n := Except.ok.inj h
        omega

/-- What a store's page of a query is, for the incidents that it stores. -/
structure Listed (query : IncidentQuery) (decode : Option String → Except Refusal ℕ)
    (encode : ℕ → String) (records : List IncidentRecord) (page : IncidentPage)
    (limit start stop : ℕ) : Prop where
  limited : clampLimit query.limit = .ok limit
  started : decode query.cursor = .ok start
  pageOf : PageOf query encode records start limit page stop

namespace MemoryIncidentStore

variable {s : MemoryIncidentStore} {j : Journal}

theorem Represents.stored (h : s.Represents j) : s.stored = j.incidents.values := by
  unfold MemoryIncidentStore.stored
  rw [h.order, h.incidents]
  exact filterMap_get j.incidents

theorem Represents.list
    (h : s.Represents j) {query : IncidentQuery} {page : IncidentPage}
    (hlist : s.list query = .ok page) :
    ∃ limit start stop, Listed query decodeCursor encodeCursor j.incidents.values page limit start
        stop ∧
      (page.nextCursor = none →
        ∀ last, (j.incidents.values.drop start).getLast? = some last →
          query.selects last = false → page.items.length < limit) ∧
      (page.nextCursor ≠ none → stop < j.incidents.values.length) := by
  obtain ⟨limit, hlimit, hrest⟩ := bind_ok hlist
  obtain ⟨start, hstart, hrest⟩ := bind_ok hrest
  have hget : ∀ record ∈ j.incidents.values.drop start,
      s.incidents.get record.failureId = some record := by
    intro record hrecord
    rw [h.incidents, InsertionMap.get_eq_some]
    exact ⟨List.mem_of_mem_drop hrecord, rfl⟩
  have hroom : ([] : List IncidentRecord).length ≤ limit := Nat.zero_le limit
  obtain ⟨n, hn, page', hpage, hitems, hbound, hend⟩ := listFrom_spec query hget start hroom
  have hsame : page' = page := by
    rw [h.order, ← List.map_drop] at hrest
    rw [← hpage]
    exact Except.ok.inj hrest
  subst hsame
  have hlength := List.length_drop (i := start) (l := j.incidents.values)
  refine ⟨limit, start, start + n, ⟨hlimit, hstart, ?_⟩, ?_, ?_⟩
  · constructor
    · omega
    · rw [hitems, List.nil_append, List.take_drop]
    · exact hbound
    · intro hnone
      rcases hend with ⟨rfl, -, -⟩ | ⟨-, hnext, -⟩
      · omega
      · rw [hnone] at hnext
        cases hnext
    · intro c hc
      rcases hend with ⟨-, hnone, -⟩ | ⟨-, hnext, hfull⟩
      · rw [hnone] at hc
        cases hc
      · rw [hnext] at hc
        exact ⟨(Option.some.inj hc).symm, hfull⟩
  · intro hnone last hlast hunwanted
    rcases hend with ⟨-, -, hshort⟩ | ⟨-, hnext, -⟩
    · exact hshort last hlast hunwanted
    · rw [hnone] at hnext
      cases hnext
  · intro hsome
    rcases hend with ⟨-, hnone, -⟩ | ⟨hlt, -, -⟩
    · exact absurd hnone hsome
    · omega

end MemoryIncidentStore

namespace SqliteIncidentStore

variable {s : SqliteIncidentStore} {j : Journal}

theorem Represents.stored (h : s.Represents j) : s.stored = j.incidents.values := by
  unfold SqliteIncidentStore.stored
  rw [h.incidents, List.map_map]
  exact List.map_id _

/-- The rows of the incidents, by their numbers. -/
theorem Represents.rows (h : s.Represents j) (hdense : s.incidents.Dense) :
    s.incidents.rows = (j.incidents.values.zipIdx 1).map fun entry =>
      (entry.2, incidentRow entry.1) := by
  have hnumbers := hdense.1
  have hcontents := h.incidents
  unfold RowTable.contents at hcontents
  have hlength : s.incidents.rows.length = j.incidents.values.length := by
    have hlengths := congrArg List.length hcontents
    simpa using hlengths
  have hfirst : ((j.incidents.values.zipIdx 1).map fun entry =>
      (entry.2, incidentRow entry.1)).map Prod.fst = List.range' 1 s.incidents.rows.length := by
    rw [List.map_map, hlength]
    exact List.zipIdx_map_snd 1 j.incidents.values
  have hsecond : ((j.incidents.values.zipIdx 1).map fun entry =>
      (entry.2, incidentRow entry.1)).map Prod.snd = j.incidents.values.map incidentRow := by
    rw [List.map_map]
    have hvalues := congrArg (List.map incidentRow) (List.zipIdx_map_fst 1 j.incidents.values)
    rw [List.map_map] at hvalues
    exact hvalues
  rw [List.zip_of_prod hnumbers hcontents]
  exact (List.zip_of_prod hfirst hsecond).symm

theorem Represents.list
    (h : s.Represents j) (hdense : s.incidents.Dense) {query : IncidentQuery}
    {page : IncidentPage} (hlist : s.list query = .ok page) :
    ∃ limit start stop, Listed query decodeCursor encodeCursor j.incidents.values page limit start
        stop ∧ (page.nextCursor ≠ none → stop < j.incidents.values.length ∧
          limit < (matching query j.incidents.values start).length) := by
  obtain ⟨limit, hlimit, hrest⟩ := bind_ok hlist
  obtain ⟨start, hstart, hrest⟩ := bind_ok hrest
  have hpositive := clampLimit_ok hlimit
  let selected := ((j.incidents.values.drop start).zipIdx (start + 1)).filter
    fun entry => query.selects entry.1
  have hrows : ((s.incidents.select fun row => query.takes row.sourceId row.state).filter
      fun row => start < row.1) = selected.map fun entry => (entry.2, incidentRow entry.1) := by
    have hbeyond := zipIdx_beyond j.incidents.values (Nat.zero_le start)
    rw [Nat.sub_zero] at hbeyond
    show _ = (List.filter _ _).map _
    rw [← hbeyond, RowTable.select, h.rows hdense, List.filter_map, List.filter_map,
      List.filter_filter, List.filter_filter]
    congr 2
    funext entry
    exact Bool.and_comm _ _
  have hrecords : selected.map (·.1) = matching query j.incidents.values start := by
    have hfirst := List.zipIdx_map_fst (start + 1) (j.incidents.values.drop start)
    unfold matching
    rw [← hfirst, List.filter_map]
    rfl
  have hlength : selected.length = (matching query j.incidents.values start).length := by
    rw [← hrecords, List.length_map]
  have hitems : ((selected.map fun entry => (entry.2, incidentRow entry.1)).take limit).map
      (fun row => row.2.record) = (matching query j.incidents.values start).take limit := by
    rw [← List.map_take, List.map_map, ← hrecords, ← List.map_take]
    rfl
  have hpage := Except.ok.inj hrest
  rw [hrows, List.take_take, Nat.min_eq_left (Nat.le_succ limit), hitems, List.length_take,
    List.length_map, hlength] at hpage
  have hdropped := List.length_drop (i := start) (l := j.incidents.values)
  by_cases hmore : limit < (matching query j.incidents.values start).length
  · have hbeyond : limit < min (limit + 1) (matching query j.incidents.values start).length := by
      omega
    obtain ⟨m, hm, htaken, hlast⟩ := take_selected query.selects (j.incidents.values.drop start)
      start hpositive (Nat.le_of_lt hmore)
    have hcursor : ((selected.map fun entry => (entry.2, incidentRow entry.1)).take
        limit).getLast?.map (fun row => encodeCursor row.1) = some (encodeCursor (start + m)) := by
      rw [← List.map_take, List.getLast?_map, Option.map_map]
      have hnumber := congrArg (Option.map encodeCursor) hlast
      rw [Option.map_map] at hnumber
      exact hnumber
    rw [if_pos hbeyond, hcursor] at hpage
    subst hpage
    have hstop : m < (j.incidents.values.drop start).length := by
      rcases Nat.lt_or_ge m (j.incidents.values.drop start).length with hlt | hge
      · exact hlt
      · rw [List.take_of_length_le hge] at htaken
        have hlengths := congrArg List.length htaken
        rw [List.length_take] at hlengths
        unfold matching at hmore
        omega
    refine ⟨limit, start, start + m, ⟨hlimit, hstart, ?_⟩, ?_⟩
    · constructor
      · omega
      · rw [← List.take_drop, htaken]
        rfl
      · exact List.length_take_le _ _
      · intro hnone
        cases hnone
      · intro c hc
        refine ⟨(Option.some.inj hc).symm, ?_⟩
        rw [List.length_take]
        omega
    · intro _
      exact ⟨by omega, hmore⟩
  · have hbeyond : ¬limit < min (limit + 1) (matching query j.incidents.values start).length := by
      omega
    have hall : (matching query j.incidents.values start).take limit =
        matching query j.incidents.values start :=
      List.take_of_length_le (Nat.le_of_not_lt hmore)
    rw [if_neg hbeyond, hall] at hpage
    subst hpage
    refine ⟨limit, start, start + (j.incidents.values.drop start).length, ⟨hlimit, hstart, ?_⟩,
      fun hsome => absurd rfl hsome⟩
    constructor
    · omega
    · rw [← List.take_drop, List.take_length]
      rfl
    · exact Nat.le_of_not_lt hmore
    · intro _
      omega
    · intro c hc
      cases hc

end SqliteIncidentStore

/-! ### Walks -/

/-- The states that some accepted calls lead to. -/
def Later {σ : Type} (answers : σ → StoreCall → Except Refusal (StoreReply × σ) → Prop) :
    σ → σ → Prop :=
  Relation.ReflTransGen fun s s' => ∃ c reply, answers s c (.ok (reply, s'))

/-- A page of the query, of any size, by the IDs of its incidents. -/
def ReadsPage {σ : Type} (list : IncidentQuery → σ → Except Refusal IncidentPage)
    (query : IncidentQuery) (cursor : Option String) (s : σ) (items : List String)
    (next : Option String) : Prop :=
  ∃ limit page, list { query with limit := limit, cursor := cursor } s = .ok page ∧
    items = page.items.map (·.failureId) ∧ next = page.nextCursor

/-- A walk through the pages of a query, while calls are accepted in between. -/
def ListWalk {σ : Type} (answers : σ → StoreCall → Except Refusal (StoreReply × σ) → Prop)
    (initial : σ) (list : IncidentQuery → σ → Except Refusal IncidentPage)
    (query : IncidentQuery) :
    List ({s : σ // Reached answers initial s} × List String) → Option String → Prop :=
  PagedWalk.Walk (fun s s' => Later answers s.1 s'.1)
    (fun cursor s items next => ReadsPage list query cursor s.1 items next)

/-- What a walk through a store's incident list finds. -/
structure WalksIncidents {σ : Type}
    (answers : σ → StoreCall → Except Refusal (StoreReply × σ) → Prop) (initial : σ)
    (list : IncidentQuery → σ → Except Refusal IncidentPage) (stored : σ → List IncidentRecord)
    (digits : ℕ) : Prop where
  distinct : ∀ s, Reached answers initial s → ((stored s).map (·.failureId)).Nodup
  ordered : ∀ query visited next, ListWalk answers initial list query visited next →
    ∀ s items, visited.getLast? = some (s, items) →
      (PagedWalk.returned visited).Sublist ((stored s.1).map (·.failureId))
  complete : ∀ query visited, ListWalk answers initial list query visited none → ∀ failureId,
    (∀ v ∈ visited, ∃ record ∈ stored v.1.1, record.failureId = failureId ∧
      query.selects record) → (PagedWalk.returned visited).count failureId = 1
  /-- A cursor is accepted as long as its number fits. -/
  answered : ∀ query s page c, Reached answers initial s → list query s = .ok page →
    page.nextCursor = some c → (stored s).length ≤ 10 ^ digits →
      ∀ s', ∃ page', list { query with cursor := some c } s' = .ok page'

/-- The incidents of a page: the first of those that match from its cursor on. -/
structure PageAt (decode : Option String → Except Refusal ℕ) (query : IncidentQuery)
    (records : List IncidentRecord) (page : IncidentPage) (limit start : ℕ) : Prop where
  limited : clampLimit query.limit = .ok limit
  started : decode query.cursor = .ok start
  items : page.items = (matching query records start).take limit

/-- No incident after a page matches. -/
def NoneAfter (query : IncidentQuery) (records : List IncidentRecord) (limit start : ℕ) : Prop :=
  (matching query records start).drop limit = []

/-- What matches fills the page exactly, and the newest incident is not of it. -/
def FullBeforeNewest (query : IncidentQuery) (records : List IncidentRecord)
    (limit start : ℕ) : Prop :=
  (matching query records start).length = limit ∧
    ∃ newest, records.getLast? = some newest ∧ query.selects newest = false

section Simulation

variable {σ : Type} {answers : σ → StoreCall → Except Refusal (StoreReply × σ) → Prop}
  {initial : σ} {represents : σ → Journal → Prop}
  {list : IncidentQuery → σ → Except Refusal IncidentPage} {stored : σ → List IncidentRecord}
  {decode : Option String → Except Refusal ℕ} {letter : Char} {digits : ℕ}

/-- Accepted calls only add incidents at the end. -/
theorem later_stored
    (hstored : ∀ s j, represents s j → stored s = j.incidents.values)
    (hstep : ∀ s j c reply s', represents s j → answers s c (.ok (reply, s')) →
      ∃ j', IncidentsAfter j.incidents j'.incidents c ∧ represents s' j')
    {s s' : σ} {j : Journal} (h : represents s j) (hlater : Later answers s s') :
    ∃ j', represents s' j' ∧
      ∃ added, (stored s').map (·.failureId) = (stored s).map (·.failureId) ++ added := by
  induction hlater with
  | refl => exact ⟨j, h, [], (List.append_nil _).symm⟩
  | tail _ hanswer ih =>
      obtain ⟨j₁, hrepresents, added, hadded⟩ := ih
      obtain ⟨c, reply, hok⟩ := hanswer
      obtain ⟨j₂, hafter, hrepresents'⟩ := hstep _ j₁ c reply _ hrepresents hok
      obtain ⟨more, hmore⟩ := hafter.ids
      refine ⟨j₂, hrepresents', added ++ more, ?_⟩
      rw [hstored _ j₂ hrepresents']
      rw [hstored _ j₁ hrepresents] at hadded
      rw [hmore, hadded, List.append_assoc]

theorem any_selected
    {m : InsertionMap IncidentRecord.failureId} (p : IncidentRecord → Bool)
    {record : IncidentRecord} (hrecord : record ∈ m.values) :
    (m.values.any fun other => decide (other.failureId = record.failureId) && p other) =
      p record := by
  cases hselected : p record with
  | true =>
      rw [List.any_eq_true]
      exact ⟨record, hrecord, by simp [hselected]⟩
  | false =>
      rw [List.any_eq_false]
      intro other hother
      by_cases hid : other.failureId = record.failureId
      · have hsame := InsertionMap.eq_of_mem hother hrecord hid
        simp [hsame, hselected]
      · simp [hid]

/-- A store whose pages are stretches of its incidents is walked through as it should be. -/
theorem walksIncidents_of_simulation
    (hinitial : represents initial Journal.initial)
    (hstored : ∀ s j, represents s j → stored s = j.incidents.values)
    (hstep : ∀ s j c reply s', represents s j → answers s c (.ok (reply, s')) →
      ∃ j', IncidentsAfter j.incidents j'.incidents c ∧ represents s' j')
    (hlist : ∀ s j query page, represents s j → list query s = .ok page →
      ∃ limit start stop, Listed query (decodeCursorAs letter digits) (encodeCursorAs letter)
        j.incidents.values page limit start stop ∧
          (page.nextCursor ≠ none → stop < j.incidents.values.length))
    (hanswered : ∀ query s limit start, clampLimit query.limit = .ok limit →
      decodeCursorAs letter digits query.cursor = .ok start → ∃ page, list query s = .ok page)
    (hdigits : 0 < digits) : WalksIncidents answers initial list stored digits := by
  have hreached : ∀ s, Reached answers initial s → ∃ j, represents s j := by
    intro s hs
    induction hs with
    | start => exact ⟨_, hinitial⟩
    | accepted _ hanswer ih =>
        obtain ⟨j, hrepresents⟩ := ih
        obtain ⟨j', -, hrepresents'⟩ := hstep _ j _ _ _ hrepresents hanswer
        exact ⟨j', hrepresents'⟩
  have hdistinct : ∀ s, Reached answers initial s → ((stored s).map (·.failureId)).Nodup := by
    intro s hs
    obtain ⟨j, hrepresents⟩ := hreached s hs
    rw [hstored s j hrepresents]
    exact j.incidents.distinct
  have hgrows : PagedWalk.Grows
      (fun s s' : {s : σ // Reached answers initial s} => Later answers s.1 s'.1)
      (fun s => (stored s.1).map (·.failureId)) := by
    intro s s' hlater
    obtain ⟨j, hrepresents⟩ := hreached s.1 s.2
    obtain ⟨-, -, hadded⟩ := later_stored hstored hstep hrepresents hlater
    exact hadded
  have hreads : ∀ query : IncidentQuery, PagedWalk.ReadsStretches
      (fun s : {s : σ // Reached answers initial s} => (stored s.1).map (·.failureId))
      (fun s failureId => (stored s.1).any fun record =>
        record.failureId = failureId && query.selects record)
      (fun cursor p => cursor = none ∧ p = 0 ∨ cursor = some (encodeCursorAs letter p))
      (fun cursor s items next => ReadsPage list query cursor s.1 items next) := by
    rintro query cursor p s items next hstarts ⟨limit, page, hpage, rfl, rfl⟩
    obtain ⟨j, hrepresents⟩ := hreached s.1 s.2
    obtain ⟨n, start, stop, hlisted, hinside⟩ := hlist s.1 j _ page hrepresents hpage
    have hstart : start = p := by
      have hstarted := hlisted.started
      rcases hstarts with ⟨rfl, rfl⟩ | rfl
      · exact (Except.ok.inj hstarted).symm
      · dsimp only at hstarted
        rw [decodeCursorAs_encodeCursorAs hdigits] at hstarted
        split at hstarted
        · exact (Except.ok.inj hstarted).symm
        · cases hstarted
    subst hstart
    have hpageOf := hlisted.pageOf
    refine ⟨stop, hpageOf.le, ?_, ?_, ?_⟩
    · dsimp only
      rw [hpageOf.items, hstored s.1 j hrepresents]
      unfold PagedWalk.stretch
      rw [← List.map_take, ← List.map_drop, List.filter_map]
      congr 1
      apply List.filter_congr
      intro record hrecord
      have hmem := List.mem_of_mem_take (List.mem_of_mem_drop hrecord)
      exact (any_selected query.selects hmem).symm
    · intro hnone
      dsimp only
      rw [hstored s.1 j hrepresents, List.length_map]
      exact hpageOf.ended hnone
    · intro c hc
      exact .inr (congrArg some (hpageOf.goesOn c hc).1)
  constructor
  · exact hdistinct
  · intro query visited next hwalk s items hlast
    exact PagedWalk.Walk.sublist hgrows (hreads query) (.inl ⟨rfl, rfl⟩) hwalk hlast
  · intro query visited hwalk failureId hmatches
    obtain ⟨first, items, hhead, -⟩ := PagedWalk.Walk.grows hgrows hwalk
    obtain ⟨record, hrecord, rfl, -⟩ := hmatches (first, items) (List.mem_of_head? hhead)
    have hwanted : ∀ v ∈ visited, ((stored v.1.1).any fun other =>
        decide (other.failureId = record.failureId) && query.selects other) = true := by
      intro v hv
      obtain ⟨other, hother, hid, hselected⟩ := hmatches v hv
      rw [List.any_eq_true]
      exact ⟨other, hother, by simp [hid, hselected]⟩
    have hmem := PagedWalk.Walk.complete hgrows (hreads query) (.inl ⟨rfl, rfl⟩) hwalk hhead
      (List.mem_map_of_mem hrecord) hwanted
    have hnodup : (PagedWalk.returned visited).Nodup := by
      cases hlast : visited.getLast? with
      | none =>
          rw [List.getLast?_eq_none_iff] at hlast
          rw [hlast] at hhead
          cases hhead
      | some last =>
          have hsublist :=
            PagedWalk.Walk.sublist hgrows (hreads query) (.inl ⟨rfl, rfl⟩) hwalk hlast
          exact hsublist.nodup (hdistinct last.1.1 last.1.2)
    exact List.count_eq_one_of_mem hnodup hmem
  · intro query s page c hs hpage hc hlength s'
    obtain ⟨j, hrepresents⟩ := hreached s hs
    obtain ⟨limit, start, stop, hlisted, hinside⟩ := hlist s j query page hrepresents hpage
    rw [hstored s j hrepresents] at hlength
    have hstop := hinside (by rw [hc]; exact Option.some_ne_none c)
    obtain ⟨rfl, -⟩ := hlisted.pageOf.goesOn c hc
    refine hanswered { query with cursor := some (encodeCursorAs letter stop) } s' limit stop
      hlisted.limited ?_
    rw [decodeCursorAs_encodeCursorAs hdigits, if_pos (by omega)]

end Simulation

/-! ### Both stores -/

theorem noneAfter_iff
    {query : IncidentQuery} {records : List IncidentRecord} {limit start : ℕ} :
    NoneAfter query records limit start ↔ (matching query records start).length ≤ limit :=
  List.drop_eq_nil_iff

namespace MemoryIncidentStore

variable {s : MemoryIncidentStore} {j : Journal}

/-- A full page that is not the whole rest goes on, even when nothing more matches. -/
theorem Represents.list_end
    (h : s.Represents j) {query : IncidentQuery} {page : IncidentPage}
    (hlist : s.list query = .ok page) :
    ∃ limit start, PageAt decodeCursor query s.stored page limit start ∧
      ((page.nextCursor = none ↔ NoneAfter query s.stored limit start) ↔
        ¬FullBeforeNewest query s.stored limit start) := by
  obtain ⟨limit, start, stop, hlisted, hshort, hinside⟩ := h.list hlist
  have hpage := hlisted.pageOf
  have hpositive := clampLimit_ok hlisted.limited
  rw [h.stored]
  refine ⟨limit, start, ⟨hlisted.limited, hlisted.started, hpage.items_eq⟩, ?_⟩
  have hnewest : (matching query j.incidents.values start).length = limit →
      (j.incidents.values.drop start).getLast? = j.incidents.values.getLast? := by
    intro hlength
    rw [List.getLast?_drop, if_neg]
    intro hbeyond
    unfold matching at hlength
    rw [List.drop_eq_nil_of_le hbeyond, List.filter_nil, List.length_nil] at hlength
    omega
  rw [noneAfter_iff]
  cases hnext : page.nextCursor with
  | none =>
      have hrest := hpage.matching_eq
      rw [List.drop_eq_nil_of_le (hpage.ended hnext), List.filter_nil, List.append_nil] at hrest
      have hfits : (matching query j.incidents.values start).length ≤ limit := by
        rw [hrest]
        exact hpage.bounded
      have hnot : ¬FullBeforeNewest query j.incidents.values limit start := by
        rintro ⟨hfull, newest, hlast, hunwanted⟩
        rw [← hnewest hfull] at hlast
        have hlt := hshort hnext newest hlast hunwanted
        rw [hrest] at hfull
        omega
      simp [hfits, hnot]
  | some c =>
      have hfull := (hpage.goesOn c hnext).2
      have hlt := hinside (by simp [hnext])
      have hlength := congrArg List.length hpage.matching_eq
      rw [List.length_append, hfull] at hlength
      simp only [reduceCtorEq, false_iff, Nat.not_le]
      constructor
      · rintro hmore ⟨hexact, -⟩
        omega
      · intro hnot
        by_contra hle
        apply hnot
        have hnone : (j.incidents.values.drop stop).filter query.selects = [] := by
          rw [← List.length_eq_zero_iff]
          omega
        rw [List.filter_eq_nil_iff] at hnone
        refine ⟨by omega, ?_⟩
        cases hlast : j.incidents.values.getLast? with
        | none =>
            rw [List.getLast?_eq_none_iff] at hlast
            rw [hlast] at hlt
            simp at hlt
        | some newest =>
            refine ⟨newest, rfl, ?_⟩
            have hdropped : (j.incidents.values.drop stop).getLast? = some newest := by
              rw [List.getLast?_drop, if_neg (Nat.not_le.mpr hlt), hlast]
            have hunwanted := hnone newest (List.mem_of_getLast? hdropped)
            simpa using hunwanted

end MemoryIncidentStore

namespace SqliteIncidentStore

variable {s : SqliteIncidentStore} {j : Journal}

theorem Represents.list_end
    (h : s.Represents j) (hdense : s.incidents.Dense) {query : IncidentQuery}
    {page : IncidentPage} (hlist : s.list query = .ok page) :
    ∃ limit start, PageAt decodeCursor query s.stored page limit start ∧
      (page.nextCursor = none ↔ NoneAfter query s.stored limit start) := by
  obtain ⟨limit, start, stop, hlisted, hmore⟩ := h.list hdense hlist
  have hpage := hlisted.pageOf
  rw [h.stored]
  refine ⟨limit, start, ⟨hlisted.limited, hlisted.started, hpage.items_eq⟩, ?_⟩
  rw [noneAfter_iff]
  constructor
  · intro hnone
    have hrest := hpage.matching_eq
    rw [List.drop_eq_nil_of_le (hpage.ended hnone), List.filter_nil, List.append_nil] at hrest
    rw [hrest]
    exact hpage.bounded
  · intro hle
    by_contra hsome
    have hlt := (hmore hsome).2
    omega

end SqliteIncidentStore

theorem MemoryIncidentStore.reached_represents
    {limits : MemoryLimits} {s : MemoryIncidentStore}
    (h : Reached (fun s c answer => MemoryIncidentStore.call limits s c = answer) .initial s) :
    ∃ j, s.Represents j ∧ j.Sound := by
  induction h with
  | start => exact ⟨_, represents_initial, Journal.sound_initial⟩
  | accepted _ hanswer ih =>
      obtain ⟨j, hrepresents, hsound⟩ := ih
      obtain ⟨j', haccepts, hrepresents'⟩ := hrepresents.accepts hsound hanswer
      exact ⟨j', hrepresents', haccepts.sound hsound⟩

theorem SqliteIncidentStore.reached_represents
    {limits : SqliteLimits} {projectId : String} {s : SqliteIncidentStore}
    (h : Reached (fun s c answer => ∃ conditions,
      SqliteIncidentStore.call limits conditions s c = answer) (.initial projectId) s) :
    ∃ j, s.Represents j ∧ j.Sound ∧ s.incidents.Dense := by
  induction h with
  | start =>
      exact ⟨_, represents_initial projectId, Journal.sound_initial, RowTable.dense_empty⟩
  | accepted _ hanswer ih =>
      obtain ⟨j, hrepresents, hsound, hdense⟩ := ih
      obtain ⟨conditions, hok⟩ := hanswer
      obtain ⟨j', haccepts, hrepresents'⟩ := hrepresents.accepts hsound hok
      exact ⟨j', hrepresents', haccepts.sound hsound, call_dense hdense hok⟩

theorem memory_walks (limits : MemoryLimits) :
    WalksIncidents (fun s c answer => MemoryIncidentStore.call limits s c = answer) .initial
      MemoryIncidentStore.list MemoryIncidentStore.stored 9 := by
  apply @walksIncidents_of_simulation _ _ _
    (fun (s : MemoryIncidentStore) (j : Journal) => s.Represents j ∧ j.Sound) _ _ 'm' 9
  · exact ⟨MemoryIncidentStore.represents_initial, Journal.sound_initial⟩
  · rintro s j ⟨hrepresents, -⟩
    exact hrepresents.stored
  · rintro s j c reply s' ⟨hrepresents, hsound⟩ hok
    obtain ⟨j', haccepts, hrepresents'⟩ := hrepresents.accepts hsound hok
    exact ⟨j', haccepts.incidents, hrepresents', haccepts.sound hsound⟩
  · rintro s j query page ⟨hrepresents, -⟩ hlist
    obtain ⟨limit, start, stop, hlisted, -, hinside⟩ := hrepresents.list hlist
    exact ⟨limit, start, stop, hlisted, hinside⟩
  · intro query s limit start hlimit hstart
    unfold MemoryIncidentStore.list MemoryIncidentStore.decodeCursor
    rw [hlimit, ok_bind, hstart, ok_bind]
    exact ⟨_, rfl⟩
  · omega

theorem sqlite_walks (limits : SqliteLimits) (projectId : String) :
    WalksIncidents
      (fun s c answer => ∃ conditions, SqliteIncidentStore.call limits conditions s c = answer)
      (.initial projectId) SqliteIncidentStore.list SqliteIncidentStore.stored 15 := by
  apply @walksIncidents_of_simulation _ _ _
    (fun (s : SqliteIncidentStore) (j : Journal) =>
      s.Represents j ∧ j.Sound ∧ s.incidents.Dense) _ _ 'j' 15
  · exact ⟨SqliteIncidentStore.represents_initial projectId, Journal.sound_initial,
      RowTable.dense_empty⟩
  · rintro s j ⟨hrepresents, -, -⟩
    exact hrepresents.stored
  · rintro s j c reply s' ⟨hrepresents, hsound, hdense⟩ ⟨conditions, hok⟩
    obtain ⟨j', haccepts, hrepresents'⟩ := hrepresents.accepts hsound hok
    exact ⟨j', haccepts.incidents, hrepresents', haccepts.sound hsound,
      SqliteIncidentStore.call_dense hdense hok⟩
  · rintro s j query page ⟨hrepresents, -, hdense⟩ hlist
    obtain ⟨limit, start, stop, hlisted, hmore⟩ := hrepresents.list hdense hlist
    exact ⟨limit, start, stop, hlisted, fun hsome => (hmore hsome).1⟩
  · intro query s limit start hlimit hstart
    unfold SqliteIncidentStore.list SqliteIncidentStore.decodeCursor
    rw [hlimit, ok_bind, hstart, ok_bind]
    exact ⟨_, rfl⟩
  · omega

/-- Walks through both lists find every incident that matches throughout once and in order.  A
page of the SQLite store says whether an incident after it matches; one of the memory store
does so unless what matches fills it exactly and the newest incident does not match. -/
theorem stores_page_incidents
    (memory : MemoryLimits) (sqlite : SqliteLimits) (projectId : String) :
    WalksIncidents (fun s c answer => MemoryIncidentStore.call memory s c = answer) .initial
        MemoryIncidentStore.list MemoryIncidentStore.stored 9 ∧
      WalksIncidents
        (fun s c answer => ∃ conditions, SqliteIncidentStore.call sqlite conditions s c = answer)
        (.initial projectId) SqliteIncidentStore.list SqliteIncidentStore.stored 15 ∧
      (∀ s query page, Reached (fun s c answer => ∃ conditions,
          SqliteIncidentStore.call sqlite conditions s c = answer) (.initial projectId) s →
        SqliteIncidentStore.list query s = .ok page →
          ∃ limit start,
            PageAt SqliteIncidentStore.decodeCursor query s.stored page limit start ∧
              (page.nextCursor = none ↔ NoneAfter query s.stored limit start)) ∧
      ∀ s query page, Reached (fun s c answer => MemoryIncidentStore.call memory s c = answer)
          .initial s → MemoryIncidentStore.list query s = .ok page →
        ∃ limit start,
          PageAt MemoryIncidentStore.decodeCursor query s.stored page limit start ∧
            ((page.nextCursor = none ↔ NoneAfter query s.stored limit start) ↔
              ¬FullBeforeNewest query s.stored limit start) := by
  refine ⟨memory_walks memory, sqlite_walks sqlite projectId, ?_, ?_⟩
  · intro s query page hs hlist
    obtain ⟨j, hrepresents, -, hdense⟩ := SqliteIncidentStore.reached_represents hs
    exact hrepresents.list_end hdense hlist
  · intro s query page hs hlist
    obtain ⟨j, hrepresents, -⟩ := MemoryIncidentStore.reached_represents hs
    exact hrepresents.list_end hlist

/-! ### A page of one of two incidents -/

def observationOf (failureId sourceId : String) : NewObservation where
  failureId := failureId
  sourceId := sourceId
  generation := "g1"
  position := .kafka "orders" 0 0
  clusterId := none
  timestamp := none
  failureClass := .invalidJson
  stage := .validate
  errorCode := .invalidPayload
  channel := none
  policy := .pause
  diagnosis := ""
  evidence := ⟨.none, .complete, none, none, 0, ""⟩
  fingerprints := ⟨"", "", "", ""⟩
  observedAt := "2026-10-03T00:00:00.000Z"

/-- A store after the first observation of an incident. -/
def withIncident (observation : NewObservation) (s : MemoryIncidentStore) : MemoryIncidentStore :=
  { s with
    incidents := s.incidents.set (newIncident observation)
    order := s.order ++ [observation.failureId] }
    |>.addEvent observation.failureId (detectedEvent observation.observedAt
      (failureClassText observation.failureClass))

def twoSources : MemoryIncidentStore :=
  withIncident (observationOf "f1:2" "payments")
    (withIncident (observationOf "f1:1" "orders") .initial)

/-- What matches is on the page, but the memory store names a next page. -/
theorem memory_page_goes_on :
    ∃ s page, Reached (fun s c answer => MemoryIncidentStore.call ⟨10000, 10000⟩ s c = answer)
        .initial s ∧
      MemoryIncidentStore.list { sourceId := some "orders", limit := some 1 } s = .ok page ∧
      NoneAfter { sourceId := some "orders", limit := some 1 } s.stored 1 0 ∧
      page.nextCursor ≠ none := by
  have hfirst : MemoryIncidentStore.call ⟨10000, 10000⟩ .initial
      (.observe (observationOf "f1:1" "orders")) =
        .ok (.observed ⟨newIncident (observationOf "f1:1" "orders"), true, false⟩,
          withIncident (observationOf "f1:1" "orders") .initial) := rfl
  have hsecond : MemoryIncidentStore.call ⟨10000, 10000⟩
      (withIncident (observationOf "f1:1" "orders") .initial)
      (.observe (observationOf "f1:2" "payments")) =
        .ok (.observed ⟨newIncident (observationOf "f1:2" "payments"), true, false⟩,
          twoSources) := rfl
  have hlist : MemoryIncidentStore.list { sourceId := some "orders", limit := some 1 }
      twoSources = .ok ⟨[newIncident (observationOf "f1:1" "orders")],
        some (MemoryIncidentStore.encodeCursor 1)⟩ := rfl
  exact ⟨twoSources, _, .accepted (.accepted .start hfirst) hsecond, hlist, rfl,
    Option.some_ne_none _⟩

end StreamOtter
