import Mathlib.Data.List.DropRight
import ServiceContract.Proofs.SnakeCase

/-!
# Where snake case breaks a name

Snake case looks at the character before and the one after, and at what it wrote last. Here its
result is said by positions of the name alone, and what follows from that about underscores.

* `snakeChars_eq_broken`: an underscore goes before exactly the positions where a word starts.
* `snakeChars_of_not_isUpper`: a name without capitals stays as it is.
* `snakeCase_exact`: the whole of it, for every name.
-/

namespace ServiceContract.Text

/-- **A word starts at position `i`**: there is a capital, after a small letter or a digit, or
between a capital and a small letter. -/
def BreaksAt (cs : List Char) (i : Nat) : Prop :=
  0 < i ∧ cs[i]?.any Char.isUpper = true ∧
    (cs[i - 1]?.any Char.isLower = true ∨ cs[i - 1]?.any Char.isDigit = true ∨
      cs[i - 1]?.any Char.isUpper = true ∧ cs[i + 1]?.any Char.isLower = true)

instance (cs : List Char) (i : Nat) : Decidable (BreaksAt cs i) :=
  inferInstanceAs (Decidable (_ ∧ _ ∧ (_ ∨ _ ∨ _ ∧ _)))

/-- The characters in small letters, with one underscore before each position where a word
starts. -/
def broken (cs : List Char) : List Char :=
  (cs.mapIdx fun i c => (if BreaksAt cs i then ['_'] else []) ++ [c.toLower]).flatten

/-- How many underscores stand right before another one. -/
def doubled (cs : List Char) : Nat :=
  (cs.zip cs.tail).count ('_', '_')

/-- **What snake case makes of a name.** -/
structure IsSnakeCase (name out : String) : Prop where
  chars : out.toList = broken name.toList
  small : ∀ c ∈ out.toList, c.isUpper = false
  stable : snakeCase out = out
  letters : out.toList.filter (· != '_') = (name.toList.filter (· != '_')).map Char.toLower
  leading : out.toList.takeWhile (· == '_') = name.toList.takeWhile (· == '_')
  trailing : out.toList.rtakeWhile (· == '_') = name.toList.rtakeWhile (· == '_')
  doubles : doubled out.toList = doubled name.toList

variable {prev : Option Char} {c : Char} {cs us pre : List Char}

/-! ## Positions -/

theorem startsWord_eq_true_iff :
    startsWord pre.getLast? c cs.head? = true ↔ BreaksAt (pre ++ c :: cs) pre.length := by
  have hat : (pre ++ c :: cs)[pre.length]? = some c := by simp
  have hnext : (pre ++ c :: cs)[pre.length + 1]? = cs.head? := by
    rw [List.getElem?_append_right (by omega), List.head?_eq_getElem?]
    simp
  unfold startsWord BreaksAt
  rw [hat, hnext]
  cases pre using List.reverseRecOn with
  | nil => simp
  | append_singleton pre p =>
    -- the character before is the last one of what comes before
    have hprev : (pre ++ [p] ++ c :: cs)[(pre ++ [p]).length - 1]? = some p := by
      rw [List.append_assoc, List.singleton_append, List.length_append, List.length_singleton,
        Nat.add_sub_cancel]
      simp
    rw [hprev, List.getLast?_concat]
    simp [or_assoc]

/-- The rest of a name after `pre` is broken where the whole name is. -/
theorem snakeChars_eq_flatten (pre cs : List Char) :
    snakeChars pre.getLast? cs =
      (cs.mapIdx fun i c =>
        (if BreaksAt (pre ++ cs) (pre.length + i) then ['_'] else []) ++ [c.toLower]).flatten := by
  induction cs generalizing pre with
  | nil => rfl
  | cons c cs ih =>
    have hrest := ih (pre ++ [c])
    rw [List.getLast?_concat, List.length_append, List.length_singleton, List.append_assoc,
      List.singleton_append] at hrest
    have hword : (if startsWord pre.getLast? c cs.head? = true then ['_'] else []) =
        if BreaksAt (pre ++ c :: cs) pre.length then ['_'] else [] :=
      if_congr startsWord_eq_true_iff rfl rfl
    rw [snakeChars, hrest, hword, List.mapIdx_cons, List.flatten_cons, List.append_assoc,
      List.singleton_append]
    simp only [Nat.add_assoc, Nat.add_comm 1, Nat.add_zero]

theorem snakeChars_eq_broken (cs : List Char) : snakeChars none cs = broken cs := by
  have h := snakeChars_eq_flatten [] cs
  simp only [List.getLast?_nil, List.nil_append, List.length_nil, Nat.zero_add] at h
  exact h

example : broken "Get2FACode_A".toList = "get2_fa_code_a".toList := by decide

/-! ## Letters -/

theorem not_startsWord_of_not_isUpper {next : Option Char} (h : ¬ c.isUpper = true) :
    ¬ startsWord prev c next = true := by
  unfold startsWord
  simp [h]

/-- **A name without capitals stays as it is.** -/
theorem snakeChars_of_not_isUpper (h : ∀ c ∈ cs, ¬ c.isUpper = true) : snakeChars prev cs = cs := by
  induction cs generalizing prev with
  | nil => rfl
  | cons c cs ih =>
    obtain ⟨hc, hcs⟩ := List.forall_mem_cons.1 h
    rw [snakeChars, if_neg (not_startsWord_of_not_isUpper hc), List.nil_append,
      toLower_of_not_isUpper hc, ih hcs]

theorem isUpper_of_mem_snakeChars (h : c ∈ snakeChars prev cs) : c.isUpper = false := by
  induction cs generalizing prev with
  | nil => cases h
  | cons d cs ih =>
    rw [snakeChars, List.mem_append, List.mem_cons] at h
    rcases h with h | rfl | h
    · have hc : c = '_' := by
        split at h
        · exact List.mem_singleton.1 h
        · cases h
      rw [hc]
      decide
    · exact isUpper_toLower d
    · exact ih h

theorem toLower_eq_underscore_iff : c.toLower = '_' ↔ c = '_' := by
  constructor
  · intro h
    have hupper : ¬ c.isUpper = true := by
      intro hu
      exact toLower_ne_underscore (isAlphanum_iff.2 (.inl hu)) h
    rwa [toLower_of_not_isUpper hupper] at h
  · rintro rfl
    decide

/-- Underscores apart, snake case writes the name in small letters. -/
theorem filter_snakeChars (prev : Option Char) (cs : List Char) :
    (snakeChars prev cs).filter (· != '_') = (cs.filter (· != '_')).map Char.toLower := by
  induction cs generalizing prev with
  | nil => rfl
  | cons c cs ih =>
    have hword :
        (if startsWord prev c cs.head? = true then ['_'] else []).filter (· != '_') = [] := by
      split <;> rfl
    rw [snakeChars, List.filter_append, hword, List.nil_append]
    by_cases hc : c = '_'
    · have hlower : c.toLower = '_' := toLower_eq_underscore_iff.2 hc
      rw [List.filter_cons_of_neg (by simp [hlower]), List.filter_cons_of_neg (by simp [hc]), ih]
    · have hlower : c.toLower ≠ '_' := mt toLower_eq_underscore_iff.1 hc
      rw [List.filter_cons_of_pos (by simp [hlower]), List.filter_cons_of_pos (by simp [hc]),
        List.map_cons, ih]

/-! ## Underscores at the ends -/

/-- At the start of a name, or after an underscore, the underscores that come next are its own. -/
theorem takeWhile_snakeChars (h : ∀ p ∈ prev, p = '_') :
    (snakeChars prev cs).takeWhile (· == '_') = cs.takeWhile (· == '_') := by
  induction cs generalizing prev with
  | nil => rfl
  | cons c cs ih =>
    have hword : ¬ startsWord prev c cs.head? = true := by
      intro hstart
      obtain ⟨p, rfl, hp⟩ := exists_isAlphanum_of_startsWord hstart
      rw [h p rfl] at hp
      exact absurd hp (by decide)
    rw [snakeChars, if_neg hword, List.nil_append]
    by_cases hc : c = '_'
    · have hlower : c.toLower = '_' := toLower_eq_underscore_iff.2 hc
      have hrest : (snakeChars (some c) cs).takeWhile (· == '_') = cs.takeWhile (· == '_') :=
        ih (by simpa using hc)
      rw [List.takeWhile_cons_of_pos (by simp [hlower]), List.takeWhile_cons_of_pos (by simp [hc]),
        hrest, hlower, hc]
    · have hlower : c.toLower ≠ '_' := mt toLower_eq_underscore_iff.1 hc
      rw [List.takeWhile_cons_of_neg (by simp [hlower]), List.takeWhile_cons_of_neg (by simp [hc])]

theorem getLast?_snakeChars (prev : Option Char) (cs : List Char) :
    (snakeChars prev cs).getLast? = cs.getLast?.map Char.toLower := by
  induction cs generalizing prev with
  | nil => rfl
  | cons c cs ih =>
    rw [snakeChars, List.getLast?_append_of_ne_nil _ (List.cons_ne_nil _ _)]
    cases cs with
    | nil => rfl
    | cons d cs =>
      have hne : snakeChars (some c) (d :: cs) ≠ [] :=
        List.append_ne_nil_of_right_ne_nil _ (List.cons_ne_nil _ _)
      rw [List.getLast?_cons_of_ne_nil hne, ih (some c), List.getLast?_cons_cons]

/-- Underscores at the end are kept and change nothing before them. -/
theorem snakeChars_append_underscores (hus : ∀ c ∈ us, c = '_') :
    snakeChars prev (cs ++ us) = snakeChars prev cs ++ us := by
  induction cs generalizing prev with
  | nil =>
    have hsmall : ∀ c ∈ us, ¬ c.isUpper = true := by
      intro c hc
      rw [hus c hc]
      decide
    exact snakeChars_of_not_isUpper hsmall
  | cons c cs ih =>
    have hnext : (cs ++ us).head?.any Char.isLower = cs.head?.any Char.isLower := by
      cases cs with
      | cons d cs => rfl
      | nil =>
        -- what follows the last character is an underscore, which is no small letter
        cases us with
        | nil => rfl
        | cons u us => rw [hus u List.mem_cons_self]; rfl
    have hword : startsWord prev c (cs ++ us).head? = startsWord prev c cs.head? := by
      unfold startsWord
      rw [hnext]
    rw [List.cons_append, snakeChars, snakeChars, hword, ih, List.append_assoc, List.cons_append]

theorem rtakeWhile_append {p : Char → Bool} (hus : ∀ c ∈ us, p c = true)
    (hcs : ∀ c ∈ cs.getLast?, p c = false) : (cs ++ us).rtakeWhile p = us := by
  have hrest : cs.reverse.takeWhile p = [] := by
    cases hlast : cs.reverse with
    | nil => rfl
    | cons c ds =>
      have hc : c ∈ cs.getLast? := by rw [List.getLast?_eq_head?_reverse, hlast]; rfl
      rw [List.takeWhile_cons_of_neg (by simp [hcs c hc])]
  unfold List.rtakeWhile
  rw [List.reverse_append,
    List.takeWhile_append_of_pos (fun c hc => hus c (List.mem_reverse.1 hc)), hrest,
    List.append_nil, List.reverse_reverse]

theorem rtakeWhile_snakeChars (prev : Option Char) (cs : List Char) :
    (snakeChars prev cs).rtakeWhile (· == '_') = cs.rtakeWhile (· == '_') := by
  have hus : ∀ c ∈ cs.rtakeWhile (· == '_'), (c == '_') = true :=
    fun c hc => List.mem_rtakeWhile_imp (p := (· == '_')) hc
  -- the name is cut before the underscores at its end: what is left ends in something else
  conv_lhs => rw [← List.rdropWhile_append_rtakeWhile (p := (· == '_')) (l := cs)]
  rw [snakeChars_append_underscores fun c hc => eq_of_beq (hus c hc)]
  refine rtakeWhile_append hus fun c hc => ?_
  rw [getLast?_snakeChars] at hc
  obtain ⟨d, hd, rfl⟩ := Option.map_eq_some_iff.1 hc
  have hlast : ¬ (d == '_') = true := by
    obtain ⟨hne, rfl⟩ := List.mem_getLast?_eq_getLast hd
    exact List.rdropWhile_last_not _ _ hne
  have hne : d.toLower ≠ '_' := mt toLower_eq_underscore_iff.1 (by simpa using hlast)
  simpa using hne

/-! ## Doubled underscores -/

theorem doubled_cons_cons (b c : Char) (cs : List Char) :
    doubled (b :: c :: cs) = (if b = '_' ∧ c = '_' then 1 else 0) + doubled (c :: cs) := by
  unfold doubled
  rw [List.tail_cons, List.zip_cons_cons, List.count_cons, List.tail_cons, Nat.add_comm]
  congr 1
  simp

/-- **No underscore is written next to another one.** -/
theorem doubled_snakeChars (p : Char) (cs : List Char) :
    doubled (p.toLower :: snakeChars (some p) cs) = doubled (p :: cs) := by
  induction cs generalizing p with
  | nil => rfl
  | cons c cs ih =>
    rw [snakeChars, doubled_cons_cons p]
    by_cases hstart : startsWord (some p) c cs.head? = true
    -- the underscore stands between two characters that are none
    · obtain ⟨q, hq, halpha⟩ := exists_isAlphanum_of_startsWord hstart
      obtain rfl : p = q := Option.some.inj hq
      have hp : p.toLower ≠ '_' := toLower_ne_underscore halpha
      have hc : c.toLower ≠ '_' := by
        intro heq
        rw [toLower_eq_underscore_iff.1 heq] at hstart
        exact not_startsWord_of_not_isUpper (by decide) hstart
      have hp' : p ≠ '_' := mt toLower_eq_underscore_iff.2 hp
      rw [if_pos hstart, List.singleton_append, doubled_cons_cons, doubled_cons_cons, ih]
      simp [hp, hc, hp']
    · rw [if_neg hstart, List.nil_append, doubled_cons_cons, ih]
      simp only [toLower_eq_underscore_iff]

/-- **Snake case, for every name.** -/
theorem snakeCase_exact (name : String) : IsSnakeCase name (snakeCase name) := by
  have hchars := toList_snakeCase name
  have hsmall : ∀ c ∈ (snakeCase name).toList, c.isUpper = false := by
    intro c hc
    rw [hchars] at hc
    exact isUpper_of_mem_snakeChars hc
  refine ⟨?_, hsmall, ?_, ?_, ?_, ?_, ?_⟩
  · rw [hchars, snakeChars_eq_broken]
  · rw [← String.toList_inj, toList_snakeCase]
    exact snakeChars_of_not_isUpper fun c hc => Bool.eq_false_iff.1 (hsmall c hc)
  · rw [hchars, filter_snakeChars]
  · rw [hchars, takeWhile_snakeChars (by simp)]
  · rw [hchars, rtakeWhile_snakeChars]
  · rw [hchars]
    cases name.toList with
    | nil => rfl
    | cons c cs =>
      rw [snakeChars, if_neg (by simp [startsWord]), List.nil_append, doubled_snakeChars]

end ServiceContract.Text
