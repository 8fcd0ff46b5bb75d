import OraidexSdk.Loops.Fueled
import OraidexSdk.Loops.Outcome
import OraidexSdk.Ordered.Keyed

namespace Paging
open Fueled Keyed Outcome

variable {ε α β K : Type}

section Rounds

def shortRound (limit : Nat) (fetch : List α → Except ε (List α)) (collected : List α) :
    Except ε (List α ⊕ List α) := do
  let res ← fetch collected
  if res.length < limit then return .inr (collected ++ res) else return .inl (collected ++ res)

-- The loop asks for pages until it has a number of entries counted before; the pages are
-- numbered in the order of the requests.
def countRound (count : Nat) (fetch : Nat → List α → Except ε (List α))
    (state : Nat × List α) : Except ε ((Nat × List α) ⊕ List α) :=
  if state.2.length < count then do
    let res ← fetch state.1 state.2
    return .inl (state.1 + 1, state.2 ++ res)
  else return .inr state.2

-- splice(0, limit) takes the next arguments off the list.
def spliceRound (limit : Nat) (query : List α → Except ε (List β)) (state : List α × List β) :
    Except ε ((List α × List β) ⊕ List β) :=
  if state.1.length > 0 then do
    let res ← query (state.1.take limit)
    return .inl (state.1.drop limit, state.2 ++ res)
  else return .inr state.2

def spliceLastRound (limit : Nat) (query : List α → Except ε (List β)) (state : List α × List β) :
    Except ε ((List α × List β) ⊕ List β) := do
  let res ← query (state.1.take limit)
  if (state.1.drop limit).length = 0 then return .inr (state.2 ++ res)
  else return .inl (state.1.drop limit, state.2 ++ res)

end Rounds

-- Asked with what was collected so far, fetch answers with the next entries.
def Serves (entries : List α) (limit : Nat) (fetch : List α → Except ε (List α)) : Prop :=
  ∀ m, m ≤ entries.length → fetch (entries.take m) = .ok ((entries.drop m).take limit)

theorem Serves.congr {entries : List α} {limit : Nat} {fetch fetch' : List α → Except ε (List α)}
    (h : Serves entries limit fetch) (heq : ∀ collected, fetch' collected = fetch collected) :
    Serves entries limit fetch' :=
  fun m hm => (heq _).trans (h m hm)

section Complete

variable {entries : List α} {limit : Nat}

theorem take_append_page (entries : List α) (m limit : Nat) :
    entries.take m ++ (entries.drop m).take limit = entries.take (m + limit) :=
  List.take_add.symm

theorem length_page (entries : List α) (m limit : Nat) :
    ((entries.drop m).take limit).length = min limit (entries.length - m) := by
  rw [List.length_take, List.length_drop]

theorem ends_shortRound {fetch : List α → Except ε (List α)} (hfetch : Serves entries limit fetch)
    (hlimit : 0 < limit) : Ends (loop (shortRound limit fetch) []) (.ok entries) := by
  refine ends_of_invariant (I := fun collected => ∃ m ≤ entries.length, collected = entries.take m)
    (fun collected => entries.length - collected.length) ?_ ⟨0, Nat.zero_le _, List.take_zero.symm⟩
  rintro _ ⟨m, hm, rfl⟩
  rw [shortRound, hfetch m hm, ok_bind, take_append_page, length_page]
  by_cases hshort : min limit (entries.length - m) < limit
  · rw [if_pos hshort, List.take_of_length_le (by omega)]
    exact .inl rfl
  · rw [if_neg hshort]
    refine .inr ⟨_, rfl, ⟨m + limit, by omega, rfl⟩, ?_⟩
    rw [List.length_take, List.length_take]
    omega

theorem ends_countRound {fetch : Nat → List α → Except ε (List α)}
    (hfetch : ∀ i, Serves entries limit (fetch i)) (hlimit : 0 < limit) :
    Ends (loop (countRound entries.length fetch) (0, [])) (.ok entries) := by
  refine ends_of_invariant (I := fun state => ∃ m ≤ entries.length, state.2 = entries.take m)
    (fun state => entries.length - state.2.length) ?_ ⟨0, Nat.zero_le _, List.take_zero.symm⟩
  rintro ⟨i, _⟩ ⟨m, hm, rfl⟩
  rw [countRound, List.length_take]
  by_cases hmore : min m entries.length < entries.length
  · rw [if_pos hmore, hfetch i m hm, ok_bind, take_append_page]
    refine .inr ⟨_, rfl, ⟨min (m + limit) entries.length, by omega, ?_⟩, ?_⟩
    · rw [← List.take_eq_take_min]
    · change entries.length - (entries.take (m + limit)).length < _
      rw [List.length_take]
      omega
  · rw [if_neg hmore, List.take_of_length_le (by omega)]
    exact .inl rfl

variable {answer : α → β} {query : List α → Except ε (List β)} {xs : List α}
variable (hquery : ∀ ys ⊆ xs, ys.length ≤ limit → query ys = .ok (ys.map answer))

def Spliced (xs : List α) (answer : α → β) (state : List α × List β) : Prop :=
  state.1 ⊆ xs ∧ state.2 ++ state.1.map answer = xs.map answer

theorem spliced_start (xs : List α) (answer : α → β) : Spliced xs answer (xs, []) :=
  ⟨List.Subset.refl xs, List.nil_append _⟩

theorem Spliced.next {rest : List α} {collected : List β} (h : Spliced xs answer (rest, collected))
    (limit : Nat) :
    Spliced xs answer (rest.drop limit, collected ++ (rest.take limit).map answer) := by
  refine ⟨fun x hx => h.1 (List.mem_of_mem_drop hx), ?_⟩
  rw [List.append_assoc, ← List.map_append, List.take_append_drop]
  exact h.2

theorem Spliced.done {collected : List β} (h : Spliced xs answer ([], collected)) :
    collected = xs.map answer := by
  rw [← h.2, List.map_nil, List.append_nil]

include hquery

theorem query_take {rest : List α} {collected : List β} (h : Spliced xs answer (rest, collected)) :
    query (rest.take limit) = .ok ((rest.take limit).map answer) :=
  hquery _ (fun _ hx => h.1 (List.mem_of_mem_take hx)) (List.length_take_le limit rest)

theorem ends_spliceRound (hlimit : 0 < limit) :
    Ends (loop (spliceRound limit query) (xs, [])) (.ok (xs.map answer)) := by
  refine ends_of_invariant (I := Spliced xs answer) (fun state => state.1.length) ?_
    (spliced_start xs answer)
  rintro ⟨rest, collected⟩ hspliced
  rw [spliceRound]
  by_cases hmore : rest.length > 0
  · rw [if_pos hmore, query_take hquery hspliced, ok_bind]
    refine .inr ⟨_, rfl, hspliced.next limit, ?_⟩
    change (rest.drop limit).length < rest.length
    rw [List.length_drop]
    omega
  · rw [if_neg hmore]
    obtain rfl : rest = [] := List.eq_nil_of_length_eq_zero (by omega)
    rw [hspliced.done]
    exact .inl rfl

theorem ends_spliceLastRound (hlimit : 0 < limit) :
    Ends (loop (spliceLastRound limit query) (xs, [])) (.ok (xs.map answer)) := by
  refine ends_of_invariant (I := Spliced xs answer) (fun state => state.1.length) ?_
    (spliced_start xs answer)
  rintro ⟨rest, collected⟩ hspliced
  have hnext := hspliced.next limit
  rw [spliceLastRound, query_take hquery hspliced, ok_bind]
  by_cases hlast : (rest.drop limit).length = 0
  · rw [if_pos hlast]
    rw [List.eq_nil_of_length_eq_zero hlast] at hnext
    rw [hnext.done]
    exact .inl rfl
  · rw [if_neg hlast]
    refine .inr ⟨_, rfl, hnext, ?_⟩
    change (rest.drop limit).length < rest.length
    rw [List.length_drop] at hlast ⊢
    omega

end Complete

section Count

variable {count : Nat} {pages : Nat → Except ε (List α)}

def collected (pages : Nat → Except ε (List α)) (k : Nat) : List α :=
  (List.range k).flatMap fun i => (pages i).toOption.getD []

theorem collected_succ {i : Nat} {page : List α} (hpage : pages i = .ok page) :
    collected pages (i + 1) = collected pages i ++ page := by
  rw [collected, List.range_succ, List.flatMap_append, List.flatMap_singleton, hpage]
  rfl

theorem countRound_next {i : Nat} {page : List α} (hpage : pages i = .ok page)
    (hmore : (collected pages i).length < count) :
    countRound count (fun i _ => pages i) (i, collected pages i) =
      .ok (.inl (i + 1, collected pages (i + 1))) := by
  rw [countRound, if_pos hmore, hpage, ok_bind, collected_succ hpage]
  rfl

def Stops (count : Nat) (pages : Nat → Except ε (List α)) (k : Nat) : Prop :=
  (∃ e, pages k = .error e) ∨ count ≤ (collected pages k).length

theorem next_of_not_stops {i : Nat} (h : ¬ Stops count pages i) :
    countRound count (fun i _ => pages i) (i, collected pages i) =
      .ok (.inl (i + 1, collected pages (i + 1))) := by
  obtain ⟨hok, hmore⟩ := not_or.mp h
  cases hpage : pages i with
  | error e => exact absurd ⟨e, hpage⟩ hok
  | ok page => exact countRound_next hpage (not_le.mp hmore)

theorem terminates_of_stops {k : Nat} (h : Stops count pages k) :
    Terminates (loop (countRound count fun i _ => pages i) (k, collected pages k)) := by
  by_cases hmore : (collected pages k).length < count
  · obtain ⟨e, he⟩ := h.resolve_right (not_le.mpr hmore)
    refine ⟨.error e, ends_of_error ?_⟩
    rw [countRound, if_pos hmore, he]
    rfl
  · refine ⟨.ok (collected pages k), ends_of_done ?_⟩
    rw [countRound, if_neg hmore]
    rfl

theorem countRound_terminates_iff :
    Terminates (loop (countRound count fun i _ => pages i) (0, [])) ↔ ∃ k, Stops count pages k := by
  constructor
  · intro hterminates
    by_contra hnone
    exact not_terminates_of_orbit (fun i => (i, collected pages i))
      (fun i => next_of_not_stops (not_exists.mp hnone i)) hterminates
  · intro hstops
    classical
    obtain ⟨r, hends⟩ := terminates_of_stops (Nat.find_spec hstops)
    exact ⟨r, ends_of_orbit (fun i => (i, collected pages i))
      (fun i hi => next_of_not_stops (Nat.find_min hstops hi)) hends⟩

end Count

section Pages

def pageFrom (entries : List α) (limit offset : Nat) : List α := (entries.drop offset).take limit

def pageAfter [LinearOrder K] (key : α → K) (entries : List α) (limit : Nat)
    (startAfter : Option K) : List α :=
  (entries.filter fun entry => startAfter.all (· < key entry)).take limit

theorem serves_pageFrom (entries : List α) (limit : Nat) :
    Serves entries limit fun collected =>
      (.ok (pageFrom entries limit collected.length) : Except ε (List α)) := by
  intro m hm
  change (.ok (pageFrom entries limit (entries.take m).length) : Except ε (List α)) = _
  rw [pageFrom, List.length_take, min_eq_left hm]

variable [LinearOrder K] {key : α → K} {entries : List α}

theorem filter_after_take (hascending : Ascending key entries) {m : Nat} {last : α}
    (hlast : (entries.take m).getLast? = some last) :
    entries.filter (fun entry => decide (key last < key entry)) = entries.drop m := by
  have hpairs := List.take_append_drop m entries ▸ hascending
  obtain ⟨htake, -, hacross⟩ := List.pairwise_append.mp hpairs
  obtain ⟨before, hbefore⟩ := List.getLast?_eq_some_iff.mp hlast
  have hmem : last ∈ entries.take m := List.mem_of_getLast? hlast
  have hnone : (entries.take m).filter (fun entry => decide (key last < key entry)) = [] := by
    rw [hbefore] at htake ⊢
    obtain ⟨-, -, hle⟩ := List.pairwise_append.mp htake
    refine List.filter_eq_nil_iff.mpr fun entry hentry => ?_
    rw [decide_eq_true_eq, not_lt]
    rcases List.mem_append.mp hentry with hearlier | hself
    · exact (hle entry hearlier last List.mem_cons_self).le
    · rw [List.mem_singleton.mp hself]
  have hall : (entries.drop m).filter (fun entry => decide (key last < key entry)) =
      entries.drop m :=
    List.filter_eq_self.mpr fun entry hentry => decide_eq_true (hacross last hmem entry hentry)
  calc entries.filter (fun entry => decide (key last < key entry))
      = (entries.take m ++ entries.drop m).filter
          (fun entry => decide (key last < key entry)) := by rw [List.take_append_drop]
    _ = entries.drop m := by rw [List.filter_append, hnone, hall, List.nil_append]

theorem serves_pageAfter (hascending : Ascending key entries) (limit : Nat) :
    Serves entries limit fun collected =>
      (.ok (pageAfter key entries limit (collected.getLast?.map key)) : Except ε (List α)) := by
  intro m hm
  refine congrArg (fun rest => Except.ok (List.take limit rest)) ?_
  cases hlast : (entries.take m).getLast? with
  | none =>
    have hzero : m = 0 := by
      have hlength := congrArg List.length (List.getLast?_eq_none_iff.mp hlast)
      rw [List.length_take, List.length_nil] at hlength
      omega
    rw [hzero]
    simp
  | some last =>
    rw [← filter_after_take hascending hlast]
    simp

end Pages

end Paging
