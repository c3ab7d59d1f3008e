import Mathlib.Data.Finset.Card
import Mathlib.Order.Interval.Finset.Nat
import PageCheck.Pattern.Matcher

/-!
# Matching against the relation of spans

The matcher takes sets of positions to sets of positions. A map of sets carries a relation between
positions if it takes a set to what the relation leads to from it. Every kind of pattern is matched
by a map that carries the spans of that pattern, repetitions without bound included: a set of
positions can grow no more often than there are positions.
-/

namespace PageCheck.Pattern

/-! ### Sets of positions -/

/-- All positions of a set are below a limit. -/
def Below (limit set : Nat) : Prop := ∀ i, set.testBit i = true → i < limit

/-- The bits of a number that is put together from bits. -/
theorem testBit_bitsOf (bits : List Bool) (i : Nat) :
    (bitsOf bits).testBit i = (bits[i]?).getD false := by
  induction bits generalizing i with
  | nil => simp [bitsOf]
  | cons bit rest ih =>
    cases i with
    | zero => cases bit <;> simp [bitsOf, Nat.testBit_zero, Nat.add_mod]
    | succ i =>
      have hhalf : (2 * bitsOf rest + if bit then 1 else 0) / 2 = bitsOf rest := by
        split <;> omega
      rw [bitsOf, Nat.testBit_succ, hhalf, ih, List.getElem?_cons_succ]

/-- A mask for a set of characters has the positions of those characters. -/
theorem testBit_setMask (set : CharSet) (text : List Char) (i : Nat) :
    (setMask set text).testBit i = true ↔ ∃ c, text[i]? = some c ∧ set.contains c = true := by
  rw [setMask, testBit_bitsOf, List.getElem?_map]
  cases text[i]? <;> simp

/-- A test of all positions of a text, the character before it being given. -/
theorem getElem?_lookBits (look : Look) (before : Option Char) (text : List Char) (i : Nat) :
    (lookBits look before text)[i]? =
      if i ≤ text.length then
        some (look.passes (if i = 0 then before else text[i - 1]?) text[i]?)
      else none := by
  induction text generalizing before i with
  | nil => cases i <;> simp [lookBits]
  | cons c rest ih =>
    cases i with
    | zero => simp [lookBits]
    | succ i =>
      rw [lookBits, List.getElem?_cons_succ, ih]
      cases i <;> simp

/-- A mask for a test has the positions that pass it. -/
theorem testBit_lookMask (look : Look) (text : List Char) (i : Nat) :
    (lookMask look text).testBit i = true ↔ i ≤ text.length ∧
      look.passes (if i = 0 then none else text[i - 1]?) text[i]? = true := by
  rw [lookMask, testBit_bitsOf, getElem?_lookBits]
  by_cases hi : i ≤ text.length <;> simp [hi]

/-! ### Maps that carry a relation -/

/-- A map of sets of positions below a limit takes each to what a relation leads to from it. -/
structure Carries (limit : Nat) (map : Nat → Nat) (leads : Nat → Nat → Prop) : Prop where
  /-- The map stays below the limit. -/
  below : ∀ set, Below limit set → Below limit (map set)
  /-- A position is reached just if the relation leads to it. -/
  reached : ∀ set, Below limit set → ∀ j,
    (map set).testBit j = true ↔ ∃ i, set.testBit i = true ∧ leads i j

/-- A relation some number of times. -/
def Rounds (leads : Nat → Nat → Prop) : Nat → Nat → Nat → Prop
  | 0, i, k => i = k
  | count + 1, i, k => ∃ j, leads i j ∧ Rounds leads count j k

/-- Some rounds and then some more. -/
theorem rounds_add {leads : Nat → Nat → Prop} {first second i k : Nat} :
    Rounds leads (first + second) i k ↔ ∃ j, Rounds leads first i j ∧ Rounds leads second j k := by
  induction first generalizing i with
  | zero => simp [Rounds]
  | succ first ih =>
    rw [Nat.succ_add]
    constructor
    · rintro ⟨j, hfirst, hrest⟩
      obtain ⟨l, hmore, hsecond⟩ := ih.mp hrest
      exact ⟨l, ⟨j, hfirst, hmore⟩, hsecond⟩
    · rintro ⟨l, ⟨j, hfirst, hmore⟩, hsecond⟩
      exact ⟨j, hfirst, ih.mpr ⟨l, hmore, hsecond⟩⟩

variable {limit : Nat} {map : Nat → Nat} {leads : Nat → Nat → Prop}

/-- A set that the map leaves alone is left alone however often it is applied. -/
theorem applyTimes_of_eq {set : Nat} (fixed : map set = set) (count : Nat) :
    applyTimes map count set = set := by
  cases count with
  | zero => rfl
  | succ count => rw [applyTimes, if_pos fixed]

/-- The first application can always be made on its own. -/
theorem applyTimes_succ (map : Nat → Nat) (count set : Nat) :
    applyTimes map (count + 1) set = applyTimes map count (map set) := by
  rw [applyTimes]
  by_cases hset : map set = set
  · rw [if_pos hset, hset, applyTimes_of_eq hset]
  · rw [if_neg hset]

/-- A set to which the map adds nothing stays as it is. -/
theorem applyUpTo_of_eq {set : Nat} (fixed : set ||| map set = set) (count : Nat) :
    applyUpTo map count set = set := by
  cases count with
  | zero => rfl
  | succ count => rw [applyUpTo, if_pos fixed]

/-- The first union can always be made on its own. -/
theorem applyUpTo_succ (map : Nat → Nat) (count set : Nat) :
    applyUpTo map (count + 1) set = applyUpTo map count (set ||| map set) := by
  rw [applyUpTo]
  by_cases hset : set ||| map set = set
  · rw [if_pos hset, hset, applyUpTo_of_eq hset]
  · rw [if_neg hset]

namespace Carries

/-- A map that carries a relation carries every other one that leads to the same positions. -/
theorem congr (carries : Carries limit map leads) {leads' : Nat → Nat → Prop}
    (same : ∀ i j, leads i j ↔ leads' i j) : Carries limit map leads' := by
  refine ⟨carries.below, fun set hset j => ?_⟩
  simp only [carries.reached set hset, same]

/-- Sets that stay as they are carry equality. -/
theorem refl (limit : Nat) : Carries limit id Eq :=
  ⟨fun _ hset => hset, fun _ _ _ => by simp⟩

variable {map' : Nat → Nat} {leads' : Nat → Nat → Prop}

/-- One map after the other carries one relation after the other. -/
theorem comp (first : Carries limit map leads) (second : Carries limit map' leads') :
    Carries limit (fun set => map' (map set)) fun i k => ∃ j, leads i j ∧ leads' j k := by
  constructor
  · exact fun set hset => second.below _ (first.below set hset)
  · intro set hset k
    rw [second.reached _ (first.below set hset)]
    constructor
    · rintro ⟨j, hj, hsecond⟩
      obtain ⟨i, hi, hfirst⟩ := (first.reached set hset j).mp hj
      exact ⟨i, hi, j, hfirst, hsecond⟩
    · rintro ⟨i, hi, j, hfirst, hsecond⟩
      exact ⟨j, (first.reached set hset j).mpr ⟨i, hi, hfirst⟩, hsecond⟩

/-- Two maps together carry either relation. -/
theorem union (first : Carries limit map leads) (second : Carries limit map' leads') :
    Carries limit (fun set => map set ||| map' set) fun i j => leads i j ∨ leads' i j := by
  constructor
  · intro set hset j hj
    rw [Nat.testBit_or, Bool.or_eq_true] at hj
    exact hj.elim (first.below set hset j) (second.below set hset j)
  · intro set hset j
    rw [Nat.testBit_or, Bool.or_eq_true, first.reached set hset, second.reached set hset,
      ← exists_or]
    simp only [and_or_left]

/-- Applying a map some number of times carries that many rounds. -/
theorem times (carries : Carries limit map leads) (count : Nat) :
    Carries limit (applyTimes map count) (Rounds leads count) := by
  induction count with
  | zero => exact .refl limit
  | succ count ih =>
    have hmap : applyTimes map (count + 1) = fun set => applyTimes map count (map set) :=
      funext (applyTimes_succ map count)
    rw [hmap]
    exact carries.comp ih

/-- A set together with what a map makes of it carries a round or none. -/
theorem once (carries : Carries limit map leads) :
    Carries limit (fun set => set ||| map set) fun i j => i = j ∨ leads i j :=
  (refl limit).union carries

/-- Applying a map at most some number of times carries at most that many rounds. -/
theorem upTo (carries : Carries limit map leads) (count : Nat) :
    Carries limit (applyUpTo map count) fun i j => ∃ m ≤ count, Rounds leads m i j := by
  induction count with
  | zero => exact (refl limit).congr fun i j => by simp [Rounds]
  | succ count ih =>
    have hmap : applyUpTo map (count + 1) = fun set => applyUpTo map count (set ||| map set) :=
      funext (applyUpTo_succ map count)
    rw [hmap]
    refine (carries.once.comp ih).congr fun i k => ?_
    constructor
    · rintro ⟨j, rfl | hfirst, m, hm, hrest⟩
      · exact ⟨m, by omega, hrest⟩
      · exact ⟨m + 1, by omega, j, hfirst, hrest⟩
    · rintro ⟨m, hm, hrounds⟩
      cases m with
      | zero => exact ⟨i, .inl rfl, 0, by omega, hrounds⟩
      | succ m =>
        obtain ⟨j, hfirst, hrest⟩ := hrounds
        exact ⟨j, .inr hfirst, m, by omega, hrest⟩

/-- The positions below the limit that a set does not have. -/
def missing (limit set : Nat) : Finset Nat := (Finset.range limit).filter (!set.testBit ·)

/-- A set that a map adds to has fewer missing positions afterwards. -/
theorem card_missing_lt (carries : Carries limit map leads) {set : Nat} (hset : Below limit set)
    (grows : set ||| map set ≠ set) :
    (missing limit (set ||| map set)).card < (missing limit set).card := by
  have hnew : ∃ i, (set ||| map set).testBit i = true ∧ set.testBit i = false := by
    by_contra hnone
    refine grows (Nat.eq_of_testBit_eq fun i => ?_)
    by_contra hi
    refine hnone ⟨i, ?_⟩
    rw [Nat.testBit_or] at hi ⊢
    cases hbit : set.testBit i <;> simp_all
  obtain ⟨i, hin, hout⟩ := hnew
  refine Finset.card_lt_card (Finset.ssubset_iff_of_subset ?_ |>.mpr ⟨i, ?_, ?_⟩)
  · intro j hj
    simp only [missing, Finset.mem_filter, Nat.testBit_or, Bool.not_or, Bool.and_eq_true] at hj ⊢
    exact ⟨hj.1, hj.2.1⟩
  · simp only [missing, Finset.mem_filter, Finset.mem_range]
    exact ⟨carries.once.below set hset i hin, by simp [hout]⟩
  · intro hmem
    have hbit : (!(set ||| map set).testBit i) = true := (Finset.mem_filter.mp hmem).2
    simp [hin] at hbit

/-- Applied as often as positions are missing, a map reaches a set that it adds nothing to. -/
theorem closed_of_missing (carries : Carries limit map leads) {count set : Nat}
    (hset : Below limit set) (enough : (missing limit set).card ≤ count) {i j : Nat}
    (reached : (applyUpTo map count set).testBit i = true) (lead : leads i j) :
    (applyUpTo map count set).testBit j = true := by
  induction count generalizing set with
  | zero =>
    rw [applyUpTo] at reached ⊢
    have hj : j < limit :=
      carries.below set hset j ((carries.reached set hset j).mpr ⟨i, reached, lead⟩)
    have hnone : missing limit set = ∅ := Finset.card_eq_zero.mp (by omega)
    cases hout : set.testBit j with
    | true => rfl
    | false =>
      have hmem : j ∈ missing limit set := by simp [missing, hj, hout]
      simp [hnone] at hmem
  | succ count ih =>
    rw [applyUpTo_succ] at reached ⊢
    by_cases hgrows : set ||| map set = set
    · rw [hgrows, applyUpTo_of_eq hgrows] at reached ⊢
      have hj := (carries.reached set hset j).mpr ⟨i, reached, lead⟩
      rw [← hgrows, Nat.testBit_or, hj, Bool.or_true]
    · have hless := carries.card_missing_lt hset hgrows
      exact ih (carries.once.below set hset) (by omega) reached

/-- So the set has what any number of rounds lead to from it. -/
theorem closed_under_rounds (carries : Carries limit map leads) {count set : Nat}
    (hset : Below limit set) (enough : (missing limit set).card ≤ count) {m i k : Nat}
    (reached : (applyUpTo map count set).testBit i = true) (rounds : Rounds leads m i k) :
    (applyUpTo map count set).testBit k = true := by
  induction m generalizing i with
  | zero =>
    cases rounds
    exact reached
  | succ m ih =>
    obtain ⟨j, hfirst, hrest⟩ := rounds
    exact ih (carries.closed_of_missing hset enough reached hfirst) hrest

/-- Applied as often as there are positions, a map carries any number of rounds. -/
theorem unbounded (carries : Carries limit map leads) :
    Carries limit (applyUpTo map limit) fun i j => ∃ m, Rounds leads m i j := by
  refine ⟨(carries.upTo limit).below, fun set hset j => ?_⟩
  have hcard : (missing limit set).card ≤ limit := by
    have hfilter := Finset.card_filter_le (Finset.range limit) (!set.testBit ·)
    rwa [Finset.card_range] at hfilter
  have hstart := (carries.upTo limit).reached set hset
  constructor
  · intro hj
    obtain ⟨i, hi, m, -, hrounds⟩ := (hstart j).mp hj
    exact ⟨i, hi, m, hrounds⟩
  · rintro ⟨i, hi, m, hrounds⟩
    have hreached := (hstart i).mpr ⟨i, hi, 0, Nat.zero_le _, rfl⟩
    exact carries.closed_under_rounds hset hcard hreached hrounds

end Carries

/-! ### Spans -/

/-- The empty pattern spans nothing but empty stretches. -/
theorem spans_empty_iff {text : List Char} {i j : Nat} : Spans text .empty i j ↔ i = j := by
  constructor
  · rintro ⟨⟩
    rfl
  · rintro rfl
    exact .empty i

/-- A test spans the empty stretch at a position that passes it. -/
theorem spans_look_iff {text : List Char} {test : Look} {i j : Nat} :
    Spans text (.look test) i j ↔
      i = j ∧ test.passes (if i = 0 then none else text[i - 1]?) text[i]? = true := by
  constructor
  · rintro ⟨⟩
    exact ⟨rfl, ‹_›⟩
  · rintro ⟨rfl, hpasses⟩
    exact .look hpasses

/-- One pattern after the other spans two stretches that meet. -/
theorem spans_seq_iff {text : List Char} {first second : Pattern} {i k : Nat} :
    Spans text (.seq first second) i k ↔ ∃ j, Spans text first i j ∧ Spans text second j k := by
  constructor
  · rintro ⟨⟩
    exact ⟨_, ‹_›, ‹_›⟩
  · rintro ⟨j, hfirst, hsecond⟩
    exact .seq hfirst hsecond

/-- A group spans what its part spans. -/
theorem spans_group_iff {text : List Char} {part : Pattern} {i j : Nat} :
    Spans text (.group part) i j ↔ Spans text part i j := by
  constructor
  · rintro ⟨⟩
    assumption
  · exact .group

/-- A choice spans what either of its patterns spans. -/
theorem spans_alt_iff {text : List Char} {first second : Pattern} {i j : Nat} :
    Spans text (.alt first second) i j ↔ Spans text first i j ∨ Spans text second i j := by
  constructor
  · intro hspans
    cases hspans with
    | altLeft hfirst => exact .inl hfirst
    | altRight hsecond => exact .inr hsecond
  · rintro (hfirst | hsecond)
    · exact .altLeft hfirst
    · exact .altRight hsecond

/-- A repetition spans what some rounds of its part span, a number of them that it allows. -/
theorem spans_repeated_iff {text : List Char} {part : Pattern} {least : Nat} {most : Option Nat}
    {i k : Nat} : Spans text (.repeated part least most) i k ↔
      ∃ m, least ≤ m ∧ (∀ bound, most = some bound → m ≤ max least bound) ∧
        Rounds (Spans text part) m i k := by
  constructor
  · intro hspans
    generalize hpattern : Pattern.repeated part least most = pattern at hspans
    induction hspans generalizing least most with
    | none i =>
      cases hpattern
      exact ⟨0, Nat.le_refl _, fun _ _ => Nat.zero_le _, rfl⟩
    | more room first rest _ ih =>
      cases hpattern
      obtain ⟨m, hleast, hmost, hrounds⟩ := ih rfl
      refine ⟨m + 1, by omega, ?_, _, first, hrounds⟩
      rintro bound rfl
      have hbound := hmost (bound - 1) rfl
      simp only [ne_eq, Option.some.injEq] at room
      omega
    | _ => cases hpattern
  · rintro ⟨m, hcount⟩
    induction m generalizing least most i with
    | zero =>
      obtain ⟨hleast, -, hrounds⟩ := hcount
      cases hrounds
      cases Nat.le_zero.mp hleast
      exact .none _
    | succ m ih =>
      obtain ⟨hleast, hmost, j, hfirst, hrest⟩ := hcount
      have hroom : 0 < least ∨ most ≠ some 0 := by
        rw [or_iff_not_imp_right, Classical.not_not]
        intro hnone
        have hbound := hmost 0 hnone
        omega
      have hfewer : ∀ bound, most.map (· - 1) = some bound → m ≤ max (least - 1) bound := by
        intro bound hbound
        obtain ⟨most, hsome, rfl⟩ := Option.map_eq_some_iff.mp hbound
        have hmost := hmost most hsome
        omega
      exact .more hroom hfirst (ih ⟨by omega, hfewer, hrest⟩)

/-- No span leads beyond the end of the text. -/
theorem Spans.le_length {text : List Char} {pattern : Pattern} {i j : Nat}
    (spans : Spans text pattern i j) (within : i ≤ text.length) : j ≤ text.length := by
  induction spans with
  | one at_i _ =>
    obtain ⟨hlt, _⟩ := List.getElem?_eq_some_iff.mp at_i
    exact hlt
  | empty | look | none => exact within
  | group _ ih | altLeft _ ih | altRight _ ih => exact ih within
  | seq _ _ hfirst hsecond | more _ _ _ hfirst hsecond => exact hsecond (hfirst within)

/-- A map that reaches what a pattern spans carries its spans. -/
theorem Carries.of_spans {text : List Char} {pattern : Pattern} {map : Nat → Nat}
    (reached : ∀ set, Below (text.length + 1) set → ∀ j, (map set).testBit j = true ↔
      ∃ i, set.testBit i = true ∧ Spans text pattern i j) :
    Carries (text.length + 1) map (Spans text pattern) := by
  refine ⟨fun set hset j hj => ?_, reached⟩
  obtain ⟨i, hi, hspans⟩ := (reached set hset j).mp hj
  have hstart := hset i hi
  have hend := hspans.le_length (by omega)
  omega

/-- A character of a set is matched by a step over the positions of such characters. -/
theorem carries_one (text : List Char) (chars : CharSet) :
    Carries (text.length + 1) (fun set => (set &&& setMask chars text) <<< 1)
      (Spans text (.one chars)) := by
  refine .of_spans fun set _ j => ?_
  rw [Nat.testBit_shiftLeft]
  constructor
  · intro hj
    obtain ⟨hpos, hset, hmask⟩ : 1 ≤ j ∧ set.testBit (j - 1) = true ∧
        (setMask chars text).testBit (j - 1) = true := by simpa using hj
    obtain ⟨c, hc, hmem⟩ := (testBit_setMask chars text (j - 1)).mp hmask
    have hspans := Spans.one hc hmem
    rw [Nat.sub_add_cancel hpos] at hspans
    exact ⟨j - 1, hset, hspans⟩
  · rintro ⟨i, hi, hspans⟩
    cases hspans with
    | one hc hmem =>
      have hmask := (testBit_setMask chars text i).mpr ⟨_, hc, hmem⟩
      simp [hi, hmask]

/-- A test is matched by keeping the positions that pass it. -/
theorem carries_look (text : List Char) (test : Look) :
    Carries (text.length + 1) (fun set => set &&& lookMask test text)
      (Spans text (.look test)) := by
  refine .of_spans fun set hset j => ?_
  rw [Nat.testBit_and, Bool.and_eq_true, testBit_lookMask]
  constructor
  · rintro ⟨hj, -, hpasses⟩
    exact ⟨j, hj, .look hpasses⟩
  · rintro ⟨i, hi, hspans⟩
    obtain ⟨rfl, hpasses⟩ := spans_look_iff.mp hspans
    exact ⟨hi, Nat.lt_succ_iff.mp (hset i hi), hpasses⟩

/-- A repetition is matched by its least number of rounds and then as many as it allows. -/
theorem carries_repeated {text : List Char} {part : Pattern} {map : Nat → Nat}
    (carries : Carries (text.length + 1) map (Spans text part)) (least : Nat) (most : Option Nat) :
    Carries (text.length + 1)
      (fun set => applyUpTo map (match most with
        | some most => most - least
        | none => text.length + 1) (applyTimes map least set))
      (Spans text (.repeated part least most)) := by
  have hleast := carries.times least
  cases most with
  | none =>
    refine (hleast.comp carries.unbounded).congr fun i k => ?_
    rw [spans_repeated_iff]
    constructor
    · rintro ⟨j, hfirst, m, hrest⟩
      exact ⟨least + m, by omega, by simp, rounds_add.mpr ⟨j, hfirst, hrest⟩⟩
    · rintro ⟨m, hm, -, hrounds⟩
      obtain ⟨more, rfl⟩ := Nat.exists_eq_add_of_le hm
      obtain ⟨j, hfirst, hrest⟩ := rounds_add.mp hrounds
      exact ⟨j, hfirst, more, hrest⟩
  | some most =>
    refine (hleast.comp (carries.upTo (most - least))).congr fun i k => ?_
    rw [spans_repeated_iff]
    constructor
    · rintro ⟨j, hfirst, m, hm, hrest⟩
      refine ⟨least + m, by omega, ?_, rounds_add.mpr ⟨j, hfirst, hrest⟩⟩
      rintro bound ⟨⟩
      omega
    · rintro ⟨m, hm, hmost, hrounds⟩
      have hbound := hmost most rfl
      obtain ⟨more, rfl⟩ := Nat.exists_eq_add_of_le hm
      obtain ⟨j, hfirst, hrest⟩ := rounds_add.mp hrounds
      exact ⟨j, hfirst, more, by omega, hrest⟩

/-- **The matcher is right.** Against a text, a pattern takes a set of positions to the positions
where a stretch ends that the pattern spans and that starts at one of them. -/
theorem carries_moves (text : List Char) (pattern : Pattern) :
    Carries (text.length + 1) ((moves text pattern).reach (text.length + 1))
      (Spans text pattern) := by
  induction pattern with
  | empty => exact (Carries.refl _).congr fun _ _ => spans_empty_iff.symm
  | one chars => exact carries_one text chars
  | look test => exact carries_look text test
  | group part ih => exact ih.congr fun _ _ => spans_group_iff.symm
  | seq first second hfirst hsecond =>
    exact (hfirst.comp hsecond).congr fun _ _ => spans_seq_iff.symm
  | alt first second hfirst hsecond =>
    exact (hfirst.union hsecond).congr fun _ _ => spans_alt_iff.symm
  | repeated part least most ih => exact carries_repeated ih least most

/-- A pattern occurs in a text if it spans a stretch of it. -/
theorem occursIn_iff {text : List Char} {pattern : Pattern} :
    occursIn pattern text = true ↔ ∃ i j, i ≤ text.length ∧ Spans text pattern i j := by
  have hall : ∀ i, (Nat.pow 2 (text.length + 1) - 1).testBit i = true ↔ i ≤ text.length := by
    intro i
    have hbit := Nat.testBit_two_pow_sub_one (text.length + 1) i
    rw [show Nat.pow 2 (text.length + 1) = 2 ^ (text.length + 1) from rfl, hbit,
      decide_eq_true_iff, Nat.lt_succ_iff]
  have hreached := (carries_moves text pattern).reached _ fun i hi => by
    have hle := (hall i).mp hi
    omega
  rw [occursIn, bne_iff_ne]
  constructor
  · intro hsome
    obtain ⟨j, hj⟩ := Nat.exists_testBit_of_ne_zero hsome
    obtain ⟨i, hi, hspans⟩ := (hreached j).mp hj
    exact ⟨i, j, (hall i).mp hi, hspans⟩
  · rintro ⟨i, j, hi, hspans⟩ hzero
    have hj := (hreached j).mpr ⟨i, (hall i).mpr hi, hspans⟩
    rw [hzero, Nat.zero_testBit] at hj
    cases hj

/-! ### Patterns between the signs for the start and the end of the text -/

/-- A pattern between a sign for the start of the text and one for its end. -/
def framed (pattern : Pattern) : Pattern :=
  .seq (.look .textStart) (.seq pattern (.seq (.look .textEnd) .empty))

/-- What a framed pattern spans is the whole text, and the pattern itself spans it. -/
theorem occursIn_framed_iff {text : List Char} {pattern : Pattern} :
    occursIn (framed pattern) text = true ↔ Spans text pattern 0 text.length := by
  rw [occursIn_iff]
  constructor
  · rintro ⟨i, j, hi, hspans⟩
    obtain ⟨start, hstart, hrest⟩ := spans_seq_iff.mp hspans
    obtain ⟨stop, hpattern, hrest⟩ := spans_seq_iff.mp hrest
    obtain ⟨_, hstop, -⟩ := spans_seq_iff.mp hrest
    obtain ⟨rfl, hbegins⟩ := spans_look_iff.mp hstart
    obtain ⟨rfl, hends⟩ := spans_look_iff.mp hstop
    have hzero : i = 0 := by
      by_contra hne
      have hlt : i - 1 < text.length := by omega
      simp [Look.passes, hne, hlt] at hbegins
    subst hzero
    have hle := hpattern.le_length (Nat.zero_le _)
    have hge : text.length ≤ stop := by simpa [Look.passes] using hends
    rwa [Nat.le_antisymm hge hle]
  · intro hspans
    have hstart : Spans text (.look .textStart) 0 0 := .look (by simp [Look.passes])
    have hstop : Spans text (.look .textEnd) text.length text.length :=
      .look (by simp [Look.passes])
    exact ⟨0, text.length, Nat.zero_le _, .seq hstart (.seq hspans (.seq hstop (.empty _)))⟩

end PageCheck.Pattern
