import OraidexSdk.Interaction.Program

namespace Interaction.Program

variable {I : Interface} {ε α β : Type} {P Q : I.Request → Prop}

def Asks (P : I.Request → Prop) : Program I ε α → Prop
  | done _ => True
  | ask request next => P request ∧ ∀ answer, (next answer).Asks P

@[simp] theorem asks_pure (a : α) : (pure a : Program I ε α).Asks P := trivial

@[simp] theorem asks_lift (x : Except ε α) : (lift x : Program I ε α).Asks P := trivial

theorem asks_request {request : I.Request} (h : P request) :
    (Program.request request : Program I ε (I.Answer request)).Asks P := ⟨h, fun _ => trivial⟩

theorem Asks.bind {p : Program I ε α} {f : α → Program I ε β} (hp : p.Asks P)
    (hf : ∀ a, (f a).Asks P) : (p >>= f).Asks P := by
  change (p.bind f).Asks P
  induction p with
  | done x =>
    cases x with
    | error e => trivial
    | ok a => exact hf a
  | ask request next ih => exact ⟨hp.1, fun answer => ih answer (hp.2 answer)⟩

theorem Asks.map {p : Program I ε α} (hp : p.Asks P) (g : α → β) : (g <$> p).Asks P :=
  hp.bind fun _ => trivial

theorem Asks.rescue {p : Program I ε α} {handler : ε → Program I ε α} (hp : p.Asks P)
    (hhandler : ∀ e, (handler e).Asks P) : (p.rescue handler).Asks P := by
  induction p with
  | done x =>
    cases x with
    | error e => exact hhandler e
    | ok a => trivial
  | ask request next ih => exact ⟨hp.1, fun answer => ih answer (hp.2 answer)⟩

theorem Asks.mono {p : Program I ε α} (hp : p.Asks P) (h : ∀ request, P request → Q request) :
    p.Asks Q := by
  induction p with
  | done x => trivial
  | ask request next ih => exact ⟨h request hp.1, fun answer => ih answer (hp.2 answer)⟩

theorem Asks.mem {p : Program I ε α} (hp : p.Asks P) {trace : List (Event I ε)}
    {outcome : Except ε α} (hrun : Runs p trace outcome) : ∀ e ∈ trace, P e.request := by
  induction hrun with
  | done outcome => simp
  | ask answer rest ih => exact List.forall_mem_cons.mpr ⟨hp.1, ih (hp.2 answer)⟩

theorem Asks.runs_bind {p : Program I ε α} {f : α → Program I ε β} (hp : p.Asks P)
    {trace : List (Event I ε)} {outcome : Except ε β} (hrun : Runs (p >>= f) trace outcome)
    {e : Event I ε} (he : e ∈ trace) (hne : ¬ P e.request) :
    ∃ a first second, trace = first ++ second ∧ Runs p first (.ok a) ∧
      Runs (f a) second outcome ∧ e ∈ second := by
  rcases runs_bind_iff.mp hrun with ⟨e', hfails, -⟩ | ⟨a, first, second, rfl, hfirst, hsecond⟩
  · exact absurd (hp.mem hfails e he) hne
  · refine ⟨a, first, second, rfl, hfirst, hsecond, ?_⟩
    exact (List.mem_append.mp he).resolve_left fun hmem => hne (hp.mem hfirst e hmem)

-- A program is taken apart by the lemmas above only.
attribute [irreducible] Asks

section Commits

variable {commits receipt : I.Request → Prop}

def CommitsOnce (commits receipt : I.Request → Prop) (trace : List (Event I ε)) : Prop :=
  trace.Pairwise fun e later => commits e.request → receipt later.request

def Commits (commits receipt : I.Request → Prop) (p : Program I ε α) : Prop :=
  ∀ trace outcome, Runs p trace outcome → CommitsOnce commits receipt trace

theorem Asks.quiet {p : Program I ε α} (hp : p.Asks fun request => ¬ commits request) :
    p.Commits commits receipt := fun _ _ hrun =>
  List.pairwise_of_forall_mem_list fun e he _ _ hcommits => absurd hcommits (hp.mem hrun e he)

theorem commits_request (request : I.Request) :
    (Program.request request : Program I ε (I.Answer request)).Commits commits receipt := by
  intro trace outcome hrun
  rw [runs_request_iff.mp hrun]
  exact List.pairwise_singleton _ _

theorem Commits.after {p : Program I ε α} {f : α → Program I ε β}
    (hp : p.Asks fun request => ¬ commits request) (hf : ∀ a, (f a).Commits commits receipt) :
    (p >>= f).Commits commits receipt := by
  intro trace outcome hrun
  rcases runs_bind_iff.mp hrun with ⟨e, hfails, -⟩ | ⟨a, first, second, rfl, hfirst, hsecond⟩
  · exact hp.quiet trace _ hfails
  · refine List.pairwise_append.mpr ⟨hp.quiet first _ hfirst, hf a second outcome hsecond, ?_⟩
    exact fun e he _ _ hcommits => absurd hcommits (hp.mem hfirst e he)

theorem Commits.followed {p : Program I ε α} {f : α → Program I ε β}
    (hp : p.Commits commits receipt) (hf : ∀ a, (f a).Asks receipt)
    (hreceipt : ∀ request, receipt request → ¬ commits request) :
    (p >>= f).Commits commits receipt := by
  intro trace outcome hrun
  rcases runs_bind_iff.mp hrun with ⟨e, hfails, -⟩ | ⟨a, first, second, rfl, hfirst, hsecond⟩
  · exact hp trace _ hfails
  · refine List.pairwise_append.mpr ⟨hp first _ hfirst, ?_, fun _ _ later hlater _ => ?_⟩
    · exact ((hf a).mono hreceipt).quiet second outcome hsecond
    · exact (hf a).mem hsecond later hlater

theorem Commits.map {p : Program I ε α} (hp : p.Commits commits receipt) (g : α → β) :
    (g <$> p).Commits commits receipt := by
  intro trace outcome hrun
  obtain ⟨x, hrun, -⟩ := runs_map_iff.mp hrun
  exact hp trace x hrun

theorem Commits.rescued {p : Program I ε α} {handler : ε → Program I ε α}
    (hp : p.Commits commits receipt) (hhandler : ∀ e, (handler e).Asks fun _ => False) :
    (p.rescue handler).Commits commits receipt := by
  intro trace outcome hrun
  rcases runs_rescue_iff.mp hrun with ⟨a, hruns, -⟩ | ⟨e, first, second, rfl, hfirst, hsecond⟩
  · exact hp trace _ hruns
  · have hnone : second = [] :=
      List.eq_nil_iff_forall_not_mem.mpr ((hhandler e).mem hsecond)
    rw [hnone, List.append_nil]
    exact hp first _ hfirst

theorem CommitsOnce.length_le_one [DecidablePred commits] {trace : List (Event I ε)}
    (h : CommitsOnce commits receipt trace)
    (hreceipt : ∀ request, receipt request → ¬ commits request) :
    (trace.filter fun e => commits e.request).length ≤ 1 := by
  induction trace with
  | nil => exact Nat.zero_le 1
  | cons e trace ih =>
    obtain ⟨hhead, htail⟩ := List.pairwise_cons.mp h
    by_cases hcommits : commits e.request
    · have hnone : trace.filter (fun e => commits e.request) = [] :=
        List.filter_eq_nil_iff.mpr fun later hlater hagain =>
          hreceipt _ (hhead later hlater hcommits) (of_decide_eq_true hagain)
      simp [hcommits, hnone]
    · simpa [hcommits] using ih htail

end Commits

section Guards

variable {commits : I.Request → Prop} {passed : List (Event I ε) → Prop}

def Guarded (commits : I.Request → Prop) (passed : List (Event I ε) → Prop)
    (p : Program I ε α) : Prop :=
  ∀ trace outcome, Runs p trace outcome → ∀ e ∈ trace, commits e.request →
    ∃ first second check, trace = first ++ second ∧ check <:+: first ∧ passed check ∧ e ∈ second

theorem Asks.unguarded {p : Program I ε α} (hp : p.Asks fun request => ¬ commits request) :
    p.Guarded commits passed := fun _ _ hrun e he hcommits => absurd hcommits (hp.mem hrun e he)

-- The first program holds the check, for each answer behind which something is committed.
theorem Asks.guardsEach {p : Program I ε α} {f : α → Program I ε β}
    (hp : p.Asks fun request => ¬ commits request)
    (h : ∀ first a, Runs p first (.ok a) → ((f a).Asks fun request => ¬ commits request) ∨
      ∃ check, check <:+: first ∧ passed check) : (p >>= f).Guarded commits passed := by
  intro trace outcome hrun e he hcommits
  obtain ⟨a, first, second, rfl, hfirst, hsecond, hmem⟩ :=
    hp.runs_bind hrun he (not_not_intro hcommits)
  rcases h first a hfirst with hquiet | ⟨check, hpart, hcheck⟩
  · exact absurd hcommits (hquiet.mem hsecond e hmem)
  · exact ⟨first, second, check, rfl, hpart, hcheck, hmem⟩

theorem Asks.guards {p : Program I ε α} {f : α → Program I ε β}
    (hp : p.Asks fun request => ¬ commits request)
    (hpassed : ∀ trace a, Runs p trace (.ok a) → ∃ check, check <:+: trace ∧ passed check) :
    (p >>= f).Guarded commits passed :=
  hp.guardsEach fun first a hrun => .inr (hpassed first a hrun)

theorem Guarded.followed {p : Program I ε α} {f : α → Program I ε β}
    (hp : p.Guarded commits passed) (hf : ∀ a, (f a).Asks fun request => ¬ commits request) :
    (p >>= f).Guarded commits passed := by
  intro trace outcome hrun e he hcommits
  rcases runs_bind_iff.mp hrun with ⟨x, hfails, -⟩ | ⟨a, before, later, rfl, hbefore, hlater⟩
  · exact hp trace _ hfails e he hcommits
  · have hmem := (List.mem_append.mp he).resolve_right fun h => (hf a).mem hlater e h hcommits
    obtain ⟨first, second, check, rfl, hpart, hcheck, hsecond⟩ := hp before _ hbefore e hmem hcommits
    refine ⟨first, second ++ later, check, List.append_assoc _ _ _, hpart, hcheck, ?_⟩
    exact List.mem_append_left _ hsecond

theorem Guarded.after {p : Program I ε α} {f : α → Program I ε β}
    (hp : p.Asks fun request => ¬ commits request)
    (hf : ∀ first a, Runs p first (.ok a) → (f a).Guarded commits passed) :
    (p >>= f).Guarded commits passed := by
  intro trace outcome hrun e he hcommits
  obtain ⟨a, before, later, rfl, hbefore, hlater, hmem⟩ :=
    hp.runs_bind hrun he (not_not_intro hcommits)
  obtain ⟨first, second, check, rfl, hpart, hcheck, hsecond⟩ :=
    hf before a hbefore later outcome hlater e hmem hcommits
  refine ⟨before ++ first, second, check, (List.append_assoc _ _ _).symm, ?_, hcheck, hsecond⟩
  exact hpart.trans (List.suffix_append before first).isInfix

theorem Guarded.lift {x : Except ε α} {f : α → Program I ε β}
    (hf : ∀ a, x = .ok a → (f a).Guarded commits passed) :
    (lift x >>= f).Guarded commits passed :=
  .after (asks_lift x) fun _ a hrun => hf a (runs_lift_iff.mp hrun).2.symm

theorem Guarded.map {p : Program I ε α} (hp : p.Guarded commits passed) (g : α → β) :
    (g <$> p).Guarded commits passed := by
  intro trace outcome hrun
  obtain ⟨x, hrun, -⟩ := runs_map_iff.mp hrun
  exact hp trace x hrun

theorem Guarded.rescue {p : Program I ε α} {handler : ε → Program I ε α}
    (hp : p.Guarded commits passed) (hhandler : ∀ e, (handler e).Asks fun _ => False) :
    (p.rescue handler).Guarded commits passed := by
  intro trace outcome hrun
  rcases runs_rescue_iff.mp hrun with ⟨a, hruns, -⟩ | ⟨e, first, second, rfl, hfirst, hsecond⟩
  · exact hp trace _ hruns
  · have hnone : second = [] :=
      List.eq_nil_iff_forall_not_mem.mpr ((hhandler e).mem hsecond)
    rw [hnone, List.append_nil]
    exact hp first _ hfirst

theorem Guarded.imp {commits' : I.Request → Prop} {p : Program I ε α}
    (hp : p.Guarded commits passed) (h : ∀ request, commits' request → commits request) :
    p.Guarded commits' passed :=
  fun trace outcome hrun e he hcommits => hp trace outcome hrun e he (h e.request hcommits)

end Guards

section Refusals

variable {commits : I.Request → Prop}

def Refuses (commits : I.Request → Prop) (p : Program I ε α) : Prop :=
  ∀ trace outcome, Runs p trace outcome →
    (∃ e, outcome = .error e) ∧ ∀ e ∈ trace, ¬ commits e.request

theorem refuses_error (e : ε) : (lift (.error e) : Program I ε α).Refuses commits := by
  intro trace outcome hrun
  obtain ⟨rfl, rfl⟩ := runs_lift_iff.mp hrun
  exact ⟨⟨e, rfl⟩, List.forall_mem_nil _⟩

theorem Refuses.after {p : Program I ε α} {f : α → Program I ε β}
    (hp : p.Asks fun request => ¬ commits request)
    (hf : ∀ first a, Runs p first (.ok a) → (f a).Refuses commits) : (p >>= f).Refuses commits := by
  intro trace outcome hrun
  rcases runs_bind_iff.mp hrun with ⟨e, hfails, rfl⟩ | ⟨a, first, second, rfl, hfirst, hsecond⟩
  · exact ⟨⟨e, rfl⟩, hp.mem hfails⟩
  · obtain ⟨herror, hnone⟩ := hf first a hfirst second outcome hsecond
    exact ⟨herror, List.forall_mem_append.mpr ⟨hp.mem hfirst, hnone⟩⟩

theorem Refuses.lift {x : Except ε α} {f : α → Program I ε β}
    (hf : ∀ a, x = .ok a → (f a).Refuses commits) : (lift x >>= f).Refuses commits :=
  .after (asks_lift x) fun _ a hrun => hf a (runs_lift_iff.mp hrun).2.symm

theorem Refuses.map {p : Program I ε α} (hp : p.Refuses commits) (g : α → β) :
    (g <$> p).Refuses commits := by
  intro trace outcome hrun
  obtain ⟨x, hx, rfl⟩ := runs_map_iff.mp hrun
  obtain ⟨⟨e, rfl⟩, hnone⟩ := hp trace x hx
  exact ⟨⟨e, rfl⟩, hnone⟩

theorem Refuses.guarded {p : Program I ε α} (hp : p.Refuses commits)
    {passed : List (Event I ε) → Prop} : p.Guarded commits passed :=
  fun trace outcome hrun e he hcommits => absurd hcommits ((hp trace outcome hrun).2 e he)

end Refusals

end Interaction.Program
