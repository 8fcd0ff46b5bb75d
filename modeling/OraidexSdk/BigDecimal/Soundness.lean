import OraidexSdk.BigDecimal.Parsing
import OraidexSdk.Js.Trim
import OraidexSdk.Loops.Outcome

namespace OraidexSdk.BigDecimal
open Js DigitText ScaledInteger DecimalLiteral Outcome

-- [+-]?digits*(.digits*)? and the number it stands for
def Denotes (s : List Char) (q : ℚ) : Prop :=
  ∃ (sign : Sign) (ints : List Char) (fraction : Option (List Char)),
    AllDigits ints ∧ AllDigits (fraction.getD []) ∧
    trim s = sign.text ++ ints ++ dotted fraction ∧
    q = scaled ℚ 10 (sign.factor * numeral (ints ++ fraction.getD [])) (fraction.getD []).length

-- decis of the constructor
def behindDot (s : List Char) : List Char := ((s.splitOn '.')[1]?).getD []

structure WellSpelled (s : List Char) : Prop where
  one_dot : s.count '.' ≤ 1
  no_radix : ∀ c ∈ s, radixPrefix? c = none
  no_inner_space : SpaceFree (trim s)
  no_late_sign : ∀ c ∈ behindDot s, c ≠ '+' ∧ c ≠ '-'
  no_late_space : SpaceFree (behindDot s) ∨ ∀ c ∈ s, c.isDigit = true → c = '0'

theorem parse_default (s : List Char) :
    parse s none = (fun n => ⟨n, max 6 (behindDot s).length⟩) <$>
      Js.bigInt ((s.splitOn '.').headD [] ++ behindDot s ++ zeros (6 - (behindDot s).length)) := by
  have hparse : parse s none =
      if 6 < (behindDot s).length ∧ unset none then
        (fun n => ⟨n, (behindDot s).length⟩) <$> Js.bigInt ((s.splitOn '.').headD [] ++ behindDot s)
      else (fun n => ⟨n, 6⟩) <$> Js.bigInt ((s.splitOn '.').headD [] ++ fit 6 (behindDot s)) := by
    rw [parse, padding_eq_fit]
    rfl
  rcases Nat.lt_or_ge 6 (behindDot s).length with hlong | hshort
  · rw [hparse, if_pos ⟨hlong, rfl⟩, max_eq_right hlong.le, Nat.sub_eq_zero_of_le hlong.le, zeros,
      List.replicate_zero, List.append_nil]
  · rw [hparse, if_neg (fun h => absurd h.1 (Nat.not_lt.mpr hshort)), max_eq_left hshort,
      List.append_assoc, fit_of_le hshort]

structure Pieces (s lead core : List Char) (fraction : Option (List Char)) (trail : List Char) :
    Prop where
  spelled : s = lead ++ (core ++ dotted fraction) ++ trail
  lead_blank : Blank lead
  trail_blank : Blank trail
  core_space : SpaceFree core
  core_dot : '.' ∉ core
  fraction_space : SpaceFree (fraction.getD [])
  fraction_dot : '.' ∉ fraction.getD []

theorem blank_not_dot {cs : List Char} (h : Blank cs) : '.' ∉ cs :=
  fun hmem => absurd (h '.' hmem) (by decide)

def parts (front trail : List Char) : Option (List Char) → List (List Char)
  | none => [front ++ trail]
  | some g => [front, g ++ trail]

namespace Pieces

variable {s lead core trail : List Char} {fraction : Option (List Char)}
  (P : Pieces s lead core fraction trail)
include P

theorem split : s.splitOn '.' = parts (lead ++ core) trail fraction := by
  have hlead := blank_not_dot P.lead_blank
  have htrail := blank_not_dot P.trail_blank
  have hcore := P.core_dot
  have hfraction := P.fraction_dot
  rw [P.spelled]
  cases fraction with
  | none =>
    have hwhole : lead ++ (core ++ dotted none) ++ trail = lead ++ core ++ trail := by simp [dotted]
    rw [hwhole]
    exact List.splitOn_eq_singleton (by simp [hlead, hcore, htrail])
  | some g =>
    have hfront : '.' ∉ lead ++ core := by simp [hlead, hcore]
    have hback : '.' ∉ g ++ trail := by
      rw [Option.getD_some] at hfraction
      simp [hfraction, htrail]
    have hform : lead ++ (core ++ dotted (some g)) ++ trail = (lead ++ core) ++ '.' :: (g ++ trail) := by
      simp [dotted]
    rw [hform, List.splitOn_append_cons_of_beq _ _ (beq_self_eq_true '.'),
      List.splitOn_eq_singleton hfront, List.splitOn_eq_singleton hback]
    rfl

theorem joined : (s.splitOn '.').headD [] ++ behindDot s =
    lead ++ (core ++ fraction.getD []) ++ trail := by
  rw [behindDot, P.split]
  cases fraction <;> simp [parts]

theorem trim_eq : trim s = core ++ dotted fraction := by
  have hdotted : SpaceFree (dotted fraction) := by
    have hspace := P.fraction_space
    cases fraction with
    | none => exact fun c hc => absurd hc List.not_mem_nil
    | some g =>
      intro c hc
      rcases List.mem_cons.mp hc with rfl | hc
      · rfl
      · exact hspace c hc
  rw [P.spelled]
  exact trim_spaceFree P.lead_blank P.trail_blank (spaceFree_append.mpr ⟨P.core_space, hdotted⟩)

end Pieces

section Digits

variable {core g lead trail : List Char}

section Blanks

variable (hcore : SpaceFree core) (hg : SpaceFree g) (hlead : Blank lead) (htrail : Blank trail)
include hcore hg hlead htrail

-- Blanks before the padding are read only where no digit is in front of them.
theorem blank_before_padding {k : Nat} (hk : k ≠ 0) (hne : trail ≠ [])
    (hradix : ∀ c ∈ lead ++ (core ++ g) ++ trail ++ zeros k, radixPrefix? c = none) {n : Int}
    (h : Js.bigInt (lead ++ (core ++ g) ++ trail ++ zeros k) = .ok n) : core ++ g = [] := by
  by_contra hfull
  have hspace : SpaceFree (core ++ g) := spaceFree_append.mpr ⟨hcore, hg⟩
  have hzeros : zeros k ≠ [] := fun hnil => hk (by simpa [zeros] using hnil)
  have hassoc : lead ++ (core ++ g) ++ trail ++ zeros k =
      lead ++ (core ++ g ++ trail ++ zeros k) ++ [] := by simp
  have htrim : trim (lead ++ (core ++ g) ++ trail ++ zeros k) = core ++ g ++ trail ++ zeros k := by
    rw [hassoc]
    refine trim_between hlead blank_nil ?_ ?_
    · intro c hc
      rw [List.append_assoc, List.head?_append_of_ne_nil _ hfull] at hc
      exact hspace c (List.mem_of_mem_head? hc)
    · intro c hc
      rw [List.getLast?_append_of_ne_nil _ hzeros] at hc
      exact spaceFree_digits (allDigits_zeros k) c (List.mem_of_getLast? hc)
  obtain ⟨s, digits, hread, hdigits, -⟩ := bigInt_shape hradix h
  obtain ⟨c, rest, rfl⟩ := List.exists_cons_of_ne_nil hne
  have hmem : c ∈ s.text ++ digits := by
    rw [← hread, htrim]
    simp
  have hblank := htrail c List.mem_cons_self
  rcases List.mem_append.mp hmem with hmem | hmem
  · exact absurd hblank (by simp [sign_whitespace s c hmem])
  · exact absurd hblank (by simp [spaceFree_digits hdigits c hmem])

end Blanks

variable (hsign : ∀ c ∈ g, c ≠ '+' ∧ c ≠ '-')
include hsign

theorem split_digits {s : Sign} {digits : List Char} {j : Nat}
    (h : core ++ g ++ zeros j = s.text ++ digits) (hdigits : AllDigits digits) :
    ∃ ints, core = s.text ++ ints ∧ AllDigits ints ∧ AllDigits g ∧ digits = ints ++ g ++ zeros j := by
  have hbehind (c : Char) (hc : c = '+' ∨ c = '-') (rest : List Char) : g ++ zeros j ≠ c :: rest := by
    intro heq
    have hmem : c ∈ g ++ zeros j := heq ▸ List.mem_cons_self
    rcases List.mem_append.mp hmem with hmem | hmem
    · exact hc.elim (hsign c hmem).1 (hsign c hmem).2
    · rw [List.eq_of_mem_replicate hmem] at hc
      exact absurd hc (by decide)
  have hsigned (c : Char) (hc : c = '+' ∨ c = '-') (htext : s.text = [c]) :
      ∃ ints, core = s.text ++ ints ∧ digits = ints ++ g ++ zeros j := by
    rw [htext] at h ⊢
    cases core with
    | nil => exact absurd h (hbehind c hc digits)
    | cons d ints =>
      obtain ⟨rfl, hrest⟩ := List.cons.inj h
      exact ⟨ints, rfl, hrest.symm⟩
  have hsplit : ∃ ints, core = s.text ++ ints ∧ digits = ints ++ g ++ zeros j := by
    cases s with
    | unsigned => exact ⟨core, rfl, h.symm⟩
    | plus => exact hsigned '+' (.inl rfl) rfl
    | minus => exact hsigned '-' (.inr rfl) rfl
  obtain ⟨ints, hcore, hall⟩ := hsplit
  rw [hall, allDigits_append, allDigits_append] at hdigits
  exact ⟨ints, hcore, hdigits.1.1, hdigits.1.2, hall⟩

variable (hcore : SpaceFree core) (hg : SpaceFree g) (hlead : Blank lead) (htrail : Blank trail)
include hcore hg hlead htrail

theorem read_pieces {k : Nat}
    (hradix : ∀ c ∈ lead ++ (core ++ g) ++ trail ++ zeros k, radixPrefix? c = none) {n : Int}
    (h : Js.bigInt (lead ++ (core ++ g) ++ trail ++ zeros k) = .ok n) :
    ∃ (s : Sign) (ints : List Char), core = s.text ++ ints ∧ AllDigits ints ∧ AllDigits g ∧
      ((trail = [] ∧ n = s.factor * (numeral (ints ++ g) * 10 ^ k : ℕ)) ∨
        (trail ≠ [] ∧ n = s.factor * (numeral (ints ++ g) : ℕ) ∧ (k ≠ 0 → ints ++ g = []))) := by
  have hspace : SpaceFree (core ++ g) := spaceFree_append.mpr ⟨hcore, hg⟩
  obtain ⟨s, digits, hread, hdigits, hn⟩ := bigInt_shape hradix h
  have hsplit {j : Nat} (htrim : trim (lead ++ (core ++ g) ++ trail ++ zeros k) =
      core ++ g ++ zeros j) : ∃ ints, core = s.text ++ ints ∧ AllDigits ints ∧ AllDigits g ∧
        n = s.factor * (numeral (ints ++ g) * 10 ^ j : ℕ) := by
    rw [htrim] at hread
    obtain ⟨ints, hints, hallInts, hallG, rfl⟩ := split_digits hsign hread hdigits
    rw [numeral_append_zeros] at hn
    exact ⟨ints, hints, hallInts, hallG, hn⟩
  by_cases hne : trail = []
  · have htrim : trim (lead ++ (core ++ g) ++ trail ++ zeros k) = core ++ g ++ zeros k := by
      have hassoc : lead ++ (core ++ g) ++ trail ++ zeros k = lead ++ (core ++ g ++ zeros k) ++ [] := by
        simp [hne]
      rw [hassoc]
      exact trim_spaceFree hlead blank_nil
        (spaceFree_append.mpr ⟨hspace, spaceFree_digits (allDigits_zeros k)⟩)
    obtain ⟨ints, hints, hallInts, hallG, hvalue⟩ := hsplit htrim
    exact ⟨s, ints, hints, hallInts, hallG, .inl ⟨hne, hvalue⟩⟩
  · by_cases hk : k = 0
    · have htrim : trim (lead ++ (core ++ g) ++ trail ++ zeros k) = core ++ g ++ zeros 0 := by
        rw [hk, zeros, List.replicate_zero, List.append_nil, List.append_nil]
        exact trim_spaceFree hlead htrail hspace
      obtain ⟨ints, hints, hallInts, hallG, hvalue⟩ := hsplit htrim
      rw [Nat.pow_zero, Nat.mul_one] at hvalue
      exact ⟨s, ints, hints, hallInts, hallG, .inr ⟨hne, hvalue, fun hk' => absurd hk hk'⟩⟩
    · have hempty := blank_before_padding hcore hg hlead htrail hk hne hradix h
      have htrim : trim (lead ++ (core ++ g) ++ trail ++ zeros k) = core ++ g ++ zeros k := by
        have hassoc : lead ++ (core ++ g) ++ trail ++ zeros k = (lead ++ trail) ++ zeros k ++ [] := by
          simp [hempty]
        rw [hassoc, hempty, List.nil_append]
        exact trim_spaceFree (blank_append hlead htrail) blank_nil
          (spaceFree_digits (allDigits_zeros k))
      obtain ⟨ints, hints, hallInts, hallG, hvalue⟩ := hsplit htrim
      obtain ⟨hcorenil, hgnil⟩ := List.append_eq_nil_iff.mp hempty
      have hnil : ints ++ g = [] := by
        rw [hcorenil] at hints
        rw [(List.append_eq_nil_iff.mp hints.symm).2, hgnil]
        rfl
      refine ⟨s, ints, hints, hallInts, hallG, .inr ⟨hne, ?_, fun _ => hnil⟩⟩
      rw [hvalue, hnil, numeral_nil, Nat.zero_mul]

end Digits

theorem scaled_more_places {m : Int} (d : Nat) {k : Nat} (hk : 0 < k) :
    scaled ℚ 10 m (d + k) = scaled ℚ 10 m d ↔ m = 0 := by
  rw [← scaled_shift (K := ℚ) 10 m d k, scaled_inj]
  constructor
  · intro h
    have hpow : (1 : Int) < (10 : ℕ) ^ k := one_lt_pow₀ (by decide) hk.ne'
    by_contra hm
    exact absurd (mul_left_cancel₀ hm (h.symm.trans (mul_one m).symm)) hpow.ne'
  · rintro rfl
    rw [zero_mul]

theorem padded_value (m : ℤ) (k : Nat) :
    scaled ℚ 10 (m * 10 ^ (6 - k)) (max 6 k) = scaled ℚ 10 m k := by
  have hshift := scaled_shift (K := ℚ) 10 m k (6 - k)
  have hscale : k + (6 - k) = max 6 k := by omega
  rwa [hscale] at hshift

theorem Pieces.blanks_counted {s lead core g trail : List Char}
    (P : Pieces s lead core (some g) trail) (hne : trail ≠ []) {m : ℤ} (hm : m ≠ 0)
    (hlong : 6 ≤ (behindDot s).length) :
    scaled ℚ 10 m (max 6 (behindDot s).length) ≠ scaled ℚ 10 m g.length ∧
      ¬ SpaceFree (behindDot s) := by
  have hbehind : behindDot s = g ++ trail := by
    rw [behindDot, P.split]
    rfl
  have hscale : max 6 (behindDot s).length = g.length + trail.length := by
    rw [hbehind, List.length_append] at hlong ⊢
    omega
  rw [hscale]
  refine ⟨(scaled_more_places g.length (List.length_pos_iff.mpr hne)).not.mpr hm, fun hspace => ?_⟩
  obtain ⟨c, rest, rfl⟩ := List.exists_cons_of_ne_nil hne
  have hfree := hspace c (by simp [hbehind])
  rw [P.trail_blank c List.mem_cons_self] at hfree
  cases hfree

namespace Pieces

variable {s lead core trail : List Char} {fraction : Option (List Char)}
  (P : Pieces s lead core fraction trail)
include P

theorem mem_joined {c : Char} (hc : c ∈ lead ++ (core ++ fraction.getD []) ++ trail) : c ∈ s := by
  rw [P.spelled]
  cases fraction with
  | none => exact hc
  | some g =>
    simp only [dotted, Option.getD_some, List.mem_append, List.mem_cons] at hc ⊢
    tauto

theorem behind_eq : behindDot s = (parts [] trail fraction).tail.headD [] := by
  rw [behindDot, P.split]
  cases fraction <;> rfl

theorem value_iff (hradix : ∀ c ∈ s, radixPrefix? c = none)
    (hsign : ∀ c ∈ fraction.getD [], c ≠ '+' ∧ c ≠ '-') {b : BigDecimal}
    (h : parse s none = .ok b) :
    ∃ (sign : Sign) (ints : List Char), core = sign.text ++ ints ∧ AllDigits ints ∧
      AllDigits (fraction.getD []) ∧
      (b.value = scaled ℚ 10 (sign.factor * numeral (ints ++ fraction.getD []))
          (fraction.getD []).length ↔
        SpaceFree (behindDot s) ∨ numeral (ints ++ fraction.getD []) = 0) := by
  rw [parse_default, P.joined, map_eq_ok] at h
  obtain ⟨n, hread, rfl⟩ := h
  have hradix' : ∀ c ∈ lead ++ (core ++ fraction.getD []) ++ trail ++
      zeros (6 - (behindDot s).length), radixPrefix? c = none := by
    intro c hc
    rcases List.mem_append.mp hc with hc | hc
    · exact hradix c (P.mem_joined hc)
    · rw [List.eq_of_mem_replicate hc]
      rfl
  obtain ⟨sign, ints, hcore, hints, hg, hcases⟩ := read_pieces hsign P.core_space
    P.fraction_space P.lead_blank P.trail_blank hradix' hread
  refine ⟨sign, ints, hcore, hints, hg, ?_⟩
  have hfactor : sign.factor ≠ 0 := by cases sign <;> decide
  have hzero : numeral (ints ++ fraction.getD []) = 0 →
      scaled ℚ 10 (sign.factor * numeral (ints ++ fraction.getD [])) (max 6 (behindDot s).length) =
        scaled ℚ 10 (sign.factor * numeral (ints ++ fraction.getD [])) (fraction.getD []).length := by
    intro hnum
    simp [hnum, scaled]
  rcases hcases with ⟨rfl, rfl⟩ | ⟨hne, rfl, hempty⟩
  · have hbehind : behindDot s = fraction.getD [] := by
      rw [P.behind_eq]
      cases fraction <;> simp [parts]
    have hpadded := padded_value (sign.factor * numeral (ints ++ fraction.getD []))
      (fraction.getD []).length
    rw [hbehind]
    refine iff_of_true ?_ (.inl P.fraction_space)
    rw [value, ← hpadded]
    push_cast
    rw [mul_assoc]
  · cases fraction with
    | none =>
      have hbehind : behindDot s = [] := P.behind_eq
      rw [hbehind] at hempty ⊢
      refine iff_of_true (hbehind ▸ hzero ?_) (.inl fun c hc => absurd hc List.not_mem_nil)
      rw [hempty (by decide), numeral_nil]
    | some g =>
      by_cases hnum : numeral (ints ++ (some g).getD []) = 0
      · exact iff_of_true (hzero hnum) (.inr hnum)
      · have hlong : 6 ≤ (behindDot s).length := by
          by_contra hshort
          exact hnum (by rw [hempty (by omega), numeral_nil])
        have hm := mul_ne_zero hfactor (Nat.cast_ne_zero (R := ℤ).mpr hnum)
        obtain ⟨hvalue, hspace⟩ := P.blanks_counted hne hm hlong
        exact iff_of_false hvalue (not_or.mpr ⟨hspace, hnum⟩)

end Pieces

theorem cut_at_only_dot {cs : List Char} (h : cs.count '.' ≤ 1) :
    ∃ core fraction, cs = core ++ dotted fraction ∧ '.' ∉ core ∧ '.' ∉ fraction.getD [] := by
  by_cases hdot : '.' ∈ cs
  · obtain ⟨core, g, rfl⟩ := List.append_of_mem hdot
    rw [List.count_append, List.count_cons_self] at h
    have hcore : core.count '.' = 0 := by omega
    have hg : g.count '.' = 0 := by omega
    exact ⟨core, some g, rfl, List.count_eq_zero.mp hcore, List.count_eq_zero.mp hg⟩
  · exact ⟨cs, none, (List.append_nil cs).symm, hdot, List.not_mem_nil⟩

theorem WellSpelled.pieces {s : List Char} (hs : WellSpelled s) :
    ∃ lead core fraction trail, Pieces s lead core fraction trail := by
  obtain ⟨lead, trail, hlead, htrail, hsplit⟩ := exists_trim s
  have hcount : (trim s).count '.' ≤ 1 := ((trim_sublist s).count_le '.').trans hs.one_dot
  obtain ⟨core, fraction, hcut, hcore, hfraction⟩ := cut_at_only_dot hcount
  have hspace := hs.no_inner_space
  rw [hcut, spaceFree_append] at hspace
  refine ⟨lead, core, fraction, trail, hcut ▸ hsplit, hlead, htrail, hspace.1, hcore, ?_, hfraction⟩
  cases fraction with
  | none => exact fun c hc => absurd hc List.not_mem_nil
  | some g => exact fun c hc => hspace.2 c (List.mem_cons_of_mem _ hc)

theorem sign_text_inj {s s' : Sign} {a b : List Char} (ha : AllDigits a) (hb : AllDigits b)
    (h : s.text ++ a = s'.text ++ b) : s = s' ∧ a = b := by
  have hcross (c : Char) (hc : c.isDigit = false) {cs ds : List Char} (hcs : AllDigits cs)
      (heq : cs = c :: ds) : False := by
    subst heq
    exact absurd (hcs c List.mem_cons_self) (by simp [hc])
  cases s with
  | unsigned =>
    cases s' with
    | unsigned => exact ⟨rfl, h⟩
    | plus => exact (hcross '+' rfl ha h).elim
    | minus => exact (hcross '-' rfl ha h).elim
  | plus =>
    cases s' with
    | unsigned => exact (hcross '+' rfl hb h.symm).elim
    | plus => exact ⟨rfl, (List.cons.inj h).2⟩
    | minus => exact absurd (List.cons.inj h).1 (by decide)
  | minus =>
    cases s' with
    | unsigned => exact (hcross '-' rfl hb h.symm).elim
    | plus => exact absurd (List.cons.inj h).1 (by decide)
    | minus => exact ⟨rfl, (List.cons.inj h).2⟩

theorem radixPrefix_whitespace {c : Char} (h : isWhitespace c = true) : radixPrefix? c = none := by
  rw [radixPrefix?.eq_def]
  split
  all_goals first | rfl | cases h

theorem radixPrefix_sign (s : Sign) : ∀ c ∈ s.text, radixPrefix? c = none := by
  cases s <;> simp [Sign.text, radixPrefix?]

theorem whitespace_not_sign {c : Char} (h : isWhitespace c = true) : c ≠ '+' ∧ c ≠ '-' := by
  constructor
  · rintro rfl
    cases h
  · rintro rfl
    cases h

section Spelled

variable {s lead core ints trail : List Char} {sign : Sign} {fraction : Option (List Char)}

theorem Pieces.one_dot (P : Pieces s lead core fraction trail) : s.count '.' ≤ 1 := by
  have hlead := List.count_eq_zero.mpr (blank_not_dot P.lead_blank)
  have htrail := List.count_eq_zero.mpr (blank_not_dot P.trail_blank)
  have hcore := List.count_eq_zero.mpr P.core_dot
  have hfraction := List.count_eq_zero.mpr P.fraction_dot
  rw [P.spelled]
  simp only [List.count_append, hlead, htrail, hcore]
  cases fraction with
  | none => simp [dotted]
  | some g =>
    rw [Option.getD_some] at hfraction
    simp [dotted, hfraction]

variable (P : Pieces s lead (sign.text ++ ints) fraction trail)
include P

theorem Pieces.mem_cases {c : Char} (hc : c ∈ s) :
    isWhitespace c = true ∨ c ∈ sign.text ∨ c ∈ ints ++ fraction.getD [] ∨ c = '.' := by
  rw [P.spelled] at hc
  have hdotted : c ∈ dotted fraction → c ∈ fraction.getD [] ∨ c = '.' := by
    cases fraction with
    | none => exact fun h => absurd h List.not_mem_nil
    | some g => exact fun h => (List.mem_cons.mp h).symm
  simp only [List.mem_append] at hc ⊢
  rcases hc with (hc | (hc | hc) | hc) | hc
  · exact .inl (P.lead_blank c hc)
  · exact .inr (.inl hc)
  · exact .inr (.inr (.inl (.inl hc)))
  · exact .inr (.inr ((hdotted hc).imp_left .inr))
  · exact .inl (P.trail_blank c hc)

variable (hdigits : AllDigits (ints ++ fraction.getD []))
include hdigits

theorem Pieces.no_radix : ∀ c ∈ s, radixPrefix? c = none := by
  intro c hc
  rcases P.mem_cases hc with hc | hc | hc | rfl
  · exact radixPrefix_whitespace hc
  · exact radixPrefix_sign sign c hc
  · exact radixPrefix_digit (hdigits c hc)
  · rfl

theorem Pieces.no_late_sign : ∀ c ∈ behindDot s, c ≠ '+' ∧ c ≠ '-' := by
  have hmem : ∀ c ∈ behindDot s, c ∈ fraction.getD [] ++ trail := by
    rw [P.behind_eq]
    cases fraction <;> simp [parts]
  intro c hc
  rcases List.mem_append.mp (hmem c hc) with hc | hc
  · exact digit_not_sign (hdigits c (List.mem_append_right ints hc))
  · exact whitespace_not_sign (P.trail_blank c hc)

theorem Pieces.digits_zero (hzero : numeral (ints ++ fraction.getD []) = 0) :
    ∀ c ∈ s, c.isDigit = true → c = '0' := by
  intro c hc hdigit
  rcases P.mem_cases hc with hc | hc | hc | rfl
  · rw [isDigit_not_whitespace hdigit] at hc
    cases hc
  · have hsign := digit_not_sign hdigit
    cases sign with
    | unsigned => cases hc
    | plus => exact absurd (List.mem_singleton.mp hc) hsign.1
    | minus => exact absurd (List.mem_singleton.mp hc) hsign.2
  · exact (numeral_eq_zero_iff hdigits).mp hzero c hc
  · cases hdigit

theorem Pieces.wellSpelled
    (hspace : SpaceFree (behindDot s) ∨ numeral (ints ++ fraction.getD []) = 0) : WellSpelled s where
  one_dot := P.one_dot
  no_radix := P.no_radix hdigits
  no_inner_space := by
    have hdotted : SpaceFree (dotted fraction) := by
      cases fraction with
      | none => exact fun c hc => absurd hc List.not_mem_nil
      | some g => exact List.forall_mem_cons.mpr ⟨rfl, P.fraction_space⟩
    rw [P.trim_eq]
    exact spaceFree_append.mpr ⟨P.core_space, hdotted⟩
  no_late_sign := P.no_late_sign hdigits
  no_late_space := hspace.imp_right (P.digits_zero hdigits)

end Spelled

theorem Denotes.pieces {s : List Char} {sign : Sign} {ints : List Char}
    {fraction : Option (List Char)} (hints : AllDigits ints) (hg : AllDigits (fraction.getD []))
    (htrim : trim s = sign.text ++ ints ++ dotted fraction) :
    ∃ lead trail, Pieces s lead (sign.text ++ ints) fraction trail := by
  obtain ⟨lead, trail, hlead, htrail, hsplit⟩ := exists_trim s
  have hsign : '.' ∉ sign.text := by cases sign <;> decide
  have hspace : SpaceFree (sign.text ++ ints) :=
    spaceFree_append.mpr ⟨sign_whitespace sign, spaceFree_digits hints⟩
  refine ⟨lead, trail, htrim ▸ hsplit, hlead, htrail, hspace, ?_, spaceFree_digits hg,
    dot_not_mem hg⟩
  rw [List.mem_append, not_or]
  exact ⟨hsign, dot_not_mem hints⟩

theorem parse_sound_iff {s : List Char} {b : BigDecimal} (h : parse s none = .ok b) :
    Denotes s b.value ↔ WellSpelled s := by
  constructor
  · rintro ⟨sign, ints, fraction, hints, hg, htrim, hvalue⟩
    obtain ⟨lead, trail, P⟩ := Denotes.pieces hints hg htrim
    have hdigits : AllDigits (ints ++ fraction.getD []) := (allDigits_append _ _).mpr ⟨hints, hg⟩
    have hsign : ∀ c ∈ fraction.getD [], c ≠ '+' ∧ c ≠ '-' := fun c hc => digit_not_sign (hg c hc)
    obtain ⟨sign', ints', hcore, hints', -, hiff⟩ := P.value_iff (P.no_radix hdigits) hsign h
    obtain ⟨rfl, rfl⟩ := sign_text_inj hints hints' hcore
    exact P.wellSpelled hdigits (hiff.mp hvalue)
  · intro hs
    obtain ⟨lead, core, fraction, trail, P⟩ := hs.pieces
    have hsign : ∀ c ∈ fraction.getD [], c ≠ '+' ∧ c ≠ '-' := by
      intro c hc
      refine hs.no_late_sign c ?_
      rw [P.behind_eq]
      cases fraction with
      | none => cases hc
      | some g => exact List.mem_append_left trail hc
    obtain ⟨sign, ints, rfl, hints, hg, hiff⟩ := P.value_iff hs.no_radix hsign h
    refine ⟨sign, ints, fraction, hints, hg, P.trim_eq, hiff.mpr (hs.no_late_space.imp_right ?_)⟩
    intro hzeros
    have hdigits : AllDigits (ints ++ fraction.getD []) := (allDigits_append _ _).mpr ⟨hints, hg⟩
    refine (numeral_eq_zero_iff hdigits).mpr fun c hc => hzeros c (P.mem_joined ?_) (hdigits c hc)
    simp only [List.mem_append] at hc ⊢
    tauto

theorem construct_sound_iff (h : Heap) {text : String} {b : BigDecimal}
    (hb : construct h none (.string text) = .ok b) :
    Denotes text.toList b.value ↔ WellSpelled text.toList :=
  parse_sound_iff hb

theorem minus_one_and_a_half_sound :
    Denotes "-1.50".toList (value ⟨-1500000, 6⟩) ↔ WellSpelled "-1.50".toList :=
  construct_sound_iff ⟨0, fun _ => ⟨0, 0⟩⟩ (by decide)

-- The padding of the fraction turns 0x10 into the digits 0x10000000.
theorem hexadecimal_accepted :
    construct ⟨0, fun _ => ⟨0, 0⟩⟩ none (.string "0x10") = .ok ⟨268435456, 6⟩ ∧
      ¬ Denotes "0x10".toList (value ⟨268435456, 6⟩) := by
  have hparse : parse "0x10".toList none = .ok ⟨268435456, 6⟩ := by decide
  refine ⟨hparse, fun hdenotes => ?_⟩
  have hradix := ((parse_sound_iff hparse).mp hdenotes).no_radix 'x' (by decide)
  exact absurd hradix (by decide)

end OraidexSdk.BigDecimal
