import DateCalculator.Proofs.PrintedInput
import Mathlib.Data.List.Nodup

/-!
The order of the lexical rules. Only dates and numbers have beginnings in common, so at any place at
most one rule has something to say, be it a claim or an error, unless a date is written there. What
a scan finds is the same for every order of the rules that has dates before numbers, and for no
other.
-/

namespace DateCalculator.Token

section FirstMatch

variable {rules others : List Recognizer} {rule : Recognizer} {before : Option Token}
  {text : List Char}

/-- Where all other rules decline, the list says what this one says. -/
theorem firstMatch?_eq_rule (member : rule ∈ rules)
    (alone : ∀ other ∈ rules, other = rule ∨ other before text = .ok none) :
    firstMatch? rules before text = rule before text := by
  by_cases silent : rule before text = .ok none
  · rw [silent]
    apply firstMatch?_of_declined
    intro other inside
    rcases alone other inside with rfl | declined
    · exact silent
    · exact declined
  · induction rules with
    | nil => contradiction
    | cons first rest ih =>
        rw [firstMatch?]
        rcases alone first List.mem_cons_self with rfl | declined
        · split
          · contradiction
          · rfl
        · have inside : rule ∈ rest := by
            refine (List.mem_cons.mp member).resolve_left ?_
            rintro rfl
            exact silent declined
          rw [declined]
          exact ih inside fun other among => alone other (List.mem_cons_of_mem first among)

/-- A list that does not decline is not asked for what stands behind it. -/
theorem firstMatch?_concat (claims : firstMatch? rules before text ≠ .ok none)
    (others : List Recognizer) :
    firstMatch? (rules ++ others) before text = firstMatch? rules before text := by
  induction rules with
  | nil => exact absurd rfl claims
  | cons first rest ih =>
      rw [List.cons_append, firstMatch?, firstMatch?]
      rw [firstMatch?] at claims
      split
      · rename_i declined
        rw [declined] at claims
        exact ih claims
      · rfl

theorem scan_congr
    (same : ∀ before text, firstMatch? rules before text = firstMatch? others before text)
    (position : Nat) (before : Option Token) (text : List Char) :
    scan rules position before text = scan others position before text := by
  fun_induction scan rules position before text with
  | case1 position before => rw [scan]
  | case2 position before first rest misreading misread => rw [scan, ← same, misread]
  | case3 position before first rest unclaimed => rw [scan, ← same, unclaimed]
  | case4 position before first rest found claimed failure clash =>
      rw [scan_of_claim ((same _ _).symm.trans claimed), clash]
  | case5 position before first rest found claimed free tokens scanned ih =>
      rw [scan_of_claim ((same _ _).symm.trans claimed), free, ← ih, scanned]
      rfl
  | case6 position before first rest found claimed free failure failed ih =>
      rw [scan_of_claim ((same _ _).symm.trans claimed), free, ← ih, failed]
      rfl

/-- Where all rules but two decline, the list says what the one of them says that stands first. -/
theorem firstMatch?_of_ordered {leader follower : Recognizer} (distinct : rules.Nodup)
    (ordered : [leader, follower].Sublist rules)
    (alone : ∀ other ∈ rules, other = leader ∨ other = follower ∨ other before text = .ok none)
    (claims : leader before text ≠ .ok none) :
    firstMatch? rules before text = leader before text := by
  obtain ⟨earlier, later, rfl, first, behind⟩ := List.cons_sublist_iff.mp ordered
  have last : follower ∈ later := List.singleton_sublist.mp behind
  have only : ∀ other ∈ earlier, other = leader ∨ other before text = .ok none := by
    intro other inside
    rcases alone other (List.mem_append_left later inside) with same | rfl | declined
    · exact .inl same
    · exact absurd rfl ((List.nodup_append.mp distinct).2.2 other inside other last)
    · exact .inr declined
  have said := firstMatch?_eq_rule first only
  rw [firstMatch?_concat (by rwa [said]), said]

end FirstMatch

theorem sublist_pair_or {rules : List Recognizer} {first second : Recognizer}
    (firstMember : first ∈ rules) (secondMember : second ∈ rules) (different : first ≠ second) :
    [first, second].Sublist rules ∨ [second, first].Sublist rules := by
  obtain ⟨earlier, later, rfl⟩ := List.append_of_mem firstMember
  rcases List.mem_append.mp secondMember with before | behind
  · right
    exact List.cons_sublist_iff.mpr ⟨earlier, first :: later, rfl, before,
      List.singleton_sublist.mpr List.mem_cons_self⟩
  · left
    have after : second ∈ later := (List.mem_cons.mp behind).resolve_left different.symm
    exact List.cons_sublist_iff.mpr ⟨earlier ++ [first], later, by simp, by simp,
      List.singleton_sublist.mpr after⟩

theorem Category.split?_nil (category : Category) : category.split? [] = none := by
  cases found : category.split? [] with
  | none => rfl
  | some parts =>
      have empty := List.append_eq_nil_iff.mp (category.append_eq found)
      exact absurd empty.1 (category.ne_nil found)

/-- Dates apart, no two kinds of lexemes begin alike. -/
theorem undated_apart : [nows, durations, symbols, numbers].Pairwise Category.Apart := by
  simp only [List.pairwise_cons, List.forall_mem_cons, List.not_mem_nil, false_imp_iff,
    implies_true, and_true, List.Pairwise.nil]
  exact ⟨⟨nows_apart rfl, nows_apart rfl, nows_apart rfl⟩,
    ⟨durations_apart rfl, durations_apart rfl⟩, symbols_apart rfl⟩

/-- Where no date is written, all rules but one decline. -/
theorem exists_deciding_rule {text : List Char} (undated : dates.split? text = none)
    (before : Option Token) :
    ∃ rule ∈ recognizers, ∀ other ∈ recognizers, other = rule ∨ other before text = .ok none := by
  suffices decided : ∃ category ∈ categories, ∀ other ∈ categories,
      other = category ∨ other.split? text = none by
    obtain ⟨category, member, alone⟩ := decided
    rw [recognizers_eq]
    refine ⟨category.rule, List.mem_map_of_mem member, ?_⟩
    intro rule inside
    obtain ⟨other, among, rfl⟩ := List.mem_map.mp inside
    rcases alone other among with rfl | declined
    · exact .inl rfl
    · exact .inr (Category.rule_of_none declined before)
  cases text with
  | nil => exact ⟨dates, List.mem_cons_self, fun other _ => .inr other.split?_nil⟩
  | cons first rest =>
      by_cases begun : ∃ category ∈ [nows, durations, symbols, numbers],
          category.initial first = true
      · obtain ⟨category, member, initial⟩ := begun
        refine ⟨category, List.mem_cons_of_mem dates member, ?_⟩
        intro other inside
        rcases List.mem_cons.mp inside with rfl | among
        · exact .inr undated
        · by_cases same : other = category
          · exact .inl same
          · have symmetric : Std.Symm Category.Apart := ⟨fun _ _ => Category.Apart.symm⟩
            have apart := undated_apart.forall member among (Ne.symm same)
            exact .inr (other.split?_eq_none (apart first initial) rest)
      · refine ⟨dates, List.mem_cons_self, ?_⟩
        intro other inside
        rcases List.mem_cons.mp inside with rfl | among
        · exact .inl rfl
        · have unbegun : other.initial first = false :=
            Bool.eq_false_iff.mpr fun initial => begun ⟨other, among, initial⟩
          exact .inr (other.split?_eq_none unbegun rest)

/-- Where a date is written, only dates and numbers have something to say. -/
theorem declined_of_dated {text : List Char} {parts : List Char × List Char}
    (dated : dates.split? text = some parts) (before : Option Token) :
    ∀ other ∈ recognizers, other = recognizeDate ∨ other = recognizeNumber ∨
      other before text = .ok none := by
  cases text with
  | nil =>
      rw [Category.split?_nil] at dated
      contradiction
  | cons first rest =>
      have initial : dates.initial first = true := dates.initial_of dated
      have declined {category : Category} (apart : category.Apart dates) :
          category.rule before (first :: rest) = .ok none :=
        Category.rule_of_none (category.split?_eq_none (apart.symm first initial) rest) before
      intro other member
      simp only [recognizers, List.mem_cons, List.not_mem_nil, or_false] at member
      rcases member with rfl | rfl | rfl | rfl | rfl
      · exact .inl rfl
      · exact .inr (.inr (recognizeNow_eq ▸ declined (nows_apart rfl)))
      · exact .inr (.inr (recognizeDuration_eq ▸ declined (durations_apart rfl)))
      · exact .inr (.inr (recognizeSymbol_eq ▸ declined (symbols_apart rfl)))
      · exact .inr (.inl rfl)

def declines (rule : Recognizer) (text : List Char) : Bool :=
  match rule none text with
  | .ok none => true
  | _ => false

theorem recognizers_nodup : recognizers.Nodup := by
  have told : (recognizers.map fun rule =>
      ["0001-01-01", "now", "P1D", "+", "1"].map fun text => declines rule text.toList).Nodup := by
    decide +kernel
  exact List.Nodup.of_map _ told

theorem dates_before_numbers : [recognizeDate, recognizeNumber].Sublist recognizers :=
  .cons_cons _ (.cons _ (.cons _ (.cons _ (.cons_cons _ .slnil))))

theorem firstMatch?_perm {rules : List Recognizer} (permuted : rules.Perm recognizers)
    (ordered : [recognizeDate, recognizeNumber].Sublist rules) (before : Option Token)
    (text : List Char) : firstMatch? rules before text = firstMatch? recognizers before text := by
  cases dated : dates.split? text with
  | none =>
      obtain ⟨rule, member, alone⟩ := exists_deciding_rule dated before
      rw [firstMatch?_eq_rule (permuted.mem_iff.mpr member)
          fun other inside => alone other (permuted.mem_iff.mp inside),
        firstMatch?_eq_rule member alone]
  | some parts =>
      have alone := declined_of_dated dated before
      have claims : recognizeDate before text ≠ .ok none := by
        rw [recognizeDate_eq]
        intro declined
        rw [Category.rule_eq_none_iff.mp declined] at dated
        contradiction
      rw [firstMatch?_of_ordered (permuted.nodup_iff.mpr recognizers_nodup) ordered
          (fun other inside => alone other (permuted.mem_iff.mp inside)) claims,
        firstMatch?_of_ordered recognizers_nodup dates_before_numbers alone claims]

/-- With numbers before dates, no date is read any more. -/
theorem tokenizeWith_earliest_ne {rules : List Recognizer} (permuted : rules.Perm recognizers)
    (reversed : [recognizeNumber, recognizeDate].Sublist rules) :
    tokenizeWith rules DateTime.earliest.text ≠ tokenize DateTime.earliest.text := by
  have dated : dates.split? DateTime.earliest.characters =
      some (DateTime.earliest.characters, []) := DateTime.earliest.splitDate?_characters (by decide)
  have claims : recognizeNumber none DateTime.earliest.characters ≠ .ok none := by
    have begun : (numbers.split? DateTime.earliest.characters).isSome = true := by decide +kernel
    rw [recognizeNumber_eq]
    intro declined
    rw [Category.rule_eq_none_iff.mp declined] at begun
    contradiction
  have first : firstMatch? rules none DateTime.earliest.characters =
      recognizeNumber none DateTime.earliest.characters := by
    refine firstMatch?_of_ordered (permuted.nodup_iff.mpr recognizers_nodup) reversed ?_ claims
    intro other inside
    have alone := declined_of_dated dated none other (permuted.mem_iff.mp inside)
    rwa [or_left_comm] at alone
  intro same
  have text : source DateTime.earliest.text = DateTime.earliest.characters :=
    source_eq_self DateTime.earliest.unblank_characters
  have read : tokenizeWith rules DateTime.earliest.text =
      .ok [.literal (.dateTime DateTime.earliest)] :=
    same.trans (DateTime.earliest.tokenize_text (by decide))
  change scan rules 0 none (source DateTime.earliest.text) = _ at read
  rw [text] at read
  obtain ⟨segments, segmented, tokens⟩ := scan_eq_ok_iff.mp read
  cases segmented with
  | segment found claimed free behind =>
      have token : found.token = .literal (.dateTime DateTime.earliest) :=
        (List.cons.inj tokens).1
      rw [first, recognizeNumber_eq] at claimed
      obtain ⟨-, reads⟩ := Category.rule_eq_some_iff.mp claimed
      obtain ⟨number, numeric⟩ := exists_number_of_reading reads
      rw [token] at numeric
      cases numeric

/-- The lexical rules in any order with dates before numbers find in every text what they find in
the default order, tokens and errors alike. In no other order do they. -/
theorem tokenizeWith_eq_tokenize_iff {rules : List Recognizer}
    (permuted : rules.Perm recognizers) :
    (∀ text, tokenizeWith rules text = tokenize text) ↔
      [recognizeDate, recognizeNumber].Sublist rules := by
  constructor
  · intro same
    have different : recognizeDate ≠ recognizeNumber := by
      rintro equal
      have distinct := recognizers_nodup
      simp [recognizers, equal] at distinct
    have date : recognizeDate ∈ rules := permuted.mem_iff.mpr (by simp [recognizers])
    have number : recognizeNumber ∈ rules := permuted.mem_iff.mpr (by simp [recognizers])
    rcases sublist_pair_or date number different with ordered | reversed
    · exact ordered
    · exact absurd (same _) (tokenizeWith_earliest_ne permuted reversed)
  · intro ordered text
    exact scan_congr (firstMatch?_perm permuted ordered) 0 none _

theorem tokenizeWith_eq_tokenize_wordsLast :
    [recognizeSymbol, recognizeDate, recognizeNumber, recognizeDuration, recognizeNow].Perm
        recognizers ∧
      tokenizeWith [recognizeSymbol, recognizeDate, recognizeNumber, recognizeDuration,
        recognizeNow] "2024-02-29T24 - pt5x" = tokenize "2024-02-29T24 - pt5x" := by
  have permuted : [recognizeSymbol, recognizeDate, recognizeNumber, recognizeDuration,
      recognizeNow].Perm recognizers := by
    have reversed : [recognizeNumber, recognizeDuration, recognizeNow].Perm
        [recognizeNow, recognizeDuration, recognizeNumber] :=
      List.reverse_perm [recognizeNow, recognizeDuration, recognizeNumber]
    have moved : [recognizeSymbol, recognizeNow, recognizeDuration, recognizeNumber].Perm
        [recognizeNow, recognizeDuration, recognizeSymbol, recognizeNumber] :=
      (List.Perm.swap _ _ _).trans ((List.Perm.swap _ _ _).cons _)
    exact (List.Perm.swap _ _ _).trans (((reversed.cons _).trans moved).cons _)
  have ordered : [recognizeDate, recognizeNumber].Sublist [recognizeSymbol, recognizeDate,
      recognizeNumber, recognizeDuration, recognizeNow] :=
    .cons _ (.cons_cons _ (.cons_cons _ (List.nil_sublist _)))
  exact ⟨permuted, (tokenizeWith_eq_tokenize_iff permuted).mpr ordered _⟩

end DateCalculator.Token
