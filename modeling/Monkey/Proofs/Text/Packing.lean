import Mathlib.Algebra.Group.Nat.Defs
import Mathlib.Data.Finset.Card
import Mathlib.Order.CompletePartialOrder
import Mathlib.Order.Interval.Set.Disjoint
import Monkey.Builtin
import Monkey.Proofs.Printing.Lexing

/-!
# Occurrences that do not overlap

Occurrences of a pattern are counted from left to right, and each one is taken that does not overlap
the one taken before. No other choice of occurrences of which no two overlap has more of them: the
first one of a choice ends no earlier than the first one that is counted, so the others are left to
choose from behind that one as well.

Since no byte inside a character is the first byte of another one, a text that is searched byte by
byte has its occurrences where it has them when searched character by character.
-/

namespace Monkey

namespace Occurrence

variable {Item : Type} {pattern items : List Item} {places : Finset Nat}

/-- Whether a pattern occurs in items at each of some places, and no item belongs to two of these
occurrences. -/
structure Packs (pattern items : List Item) (places : Finset Nat) : Prop where
  occurs : ∀ place ∈ places, pattern <+: items.drop place
  apart : (places : Set Nat).PairwiseDisjoint fun place => Set.Ico place (place + pattern.length)

/-- The numbers of occurrences that can be had at once without an overlap. -/
def packingSizes (pattern items : List Item) : Set Nat :=
  {size | ∃ places, Packs pattern items places ∧ places.card = size}

/-! ## Choices of occurrences -/

namespace Packs

theorem empty (pattern items : List Item) : Packs pattern items ∅ :=
  ⟨by simp, by simp⟩

section Order

variable (nonempty : pattern ≠ [])

include nonempty

/-- Of two occurrences that do not overlap, one ends where the other one starts, or before that. -/
theorem apart_iff {left right : Nat} :
    Disjoint (Set.Ico left (left + pattern.length)) (Set.Ico right (right + pattern.length)) ↔
      left + pattern.length ≤ right ∨ right + pattern.length ≤ left := by
  have positive := List.length_pos_of_ne_nil nonempty
  rw [Set.Ico_disjoint_Ico]
  omega

theorem add_length_le (packs : Packs pattern items places) {left right : Nat}
    (leftIn : left ∈ places) (rightIn : right ∈ places) (lower : left < right) :
    left + pattern.length ≤ right := by
  have disjoint := packs.apart leftIn rightIn (Nat.ne_of_lt lower)
  rcases (apart_iff nonempty).mp disjoint with before | behind
  · exact before
  · omega

theorem of_order (occurs : ∀ place ∈ places, pattern <+: items.drop place)
    (order : ∀ left ∈ places, ∀ right ∈ places, left < right → left + pattern.length ≤ right) :
    Packs pattern items places := by
  refine ⟨occurs, fun left leftIn right rightIn differ => (apart_iff nonempty).mpr ?_⟩
  rcases Nat.lt_or_gt_of_ne differ with lower | higher
  · exact .inl (order left leftIn right rightIn lower)
  · exact .inr (order right rightIn left leftIn higher)

/-- Occurrences in a part of a row are occurrences in the whole row, farther on by what stands
before the part. -/
theorem append_left (packs : Packs pattern items places) (front : List Item) :
    Packs pattern (front ++ items) (places.image (front.length + ·)) := by
  refine of_order nonempty ?_ ?_
  · simp only [Finset.mem_image]
    rintro _ ⟨place, member, rfl⟩
    rw [List.drop_length_add_append]
    exact packs.occurs place member
  · simp only [Finset.mem_image]
    rintro _ ⟨left, leftIn, rfl⟩ _ ⟨right, rightIn, rfl⟩ lower
    have order := packs.add_length_le nonempty leftIn rightIn (by omega)
    omega

/-- Of occurrences in a row, those that start behind its front are occurrences in the rest. -/
theorem behind {front : List Item} (packs : Packs pattern (front ++ items) places) :
    Packs pattern items ((places.filter (front.length ≤ ·)).image (· - front.length)) := by
  refine of_order nonempty ?_ ?_
  · simp only [Finset.mem_image, Finset.mem_filter]
    rintro _ ⟨place, ⟨member, behind⟩, rfl⟩
    have occurs := packs.occurs place member
    rwa [List.drop_append, List.drop_eq_nil_of_le behind, List.nil_append] at occurs
  · simp only [Finset.mem_image, Finset.mem_filter]
    rintro _ ⟨left, ⟨leftIn, _⟩, rfl⟩ _ ⟨right, ⟨rightIn, _⟩, rfl⟩ lower
    have order := packs.add_length_le nonempty leftIn rightIn (by omega)
    omega

/-- At most one of the occurrences starts within a front that is no longer than the pattern. -/
theorem card_le_add_one {front : List Item} (packs : Packs pattern items places)
    (short : front.length ≤ pattern.length) :
    places.card ≤ (places.filter (front.length ≤ ·)).card + 1 := by
  have split := Finset.card_filter_add_card_filter_not (s := places) (front.length ≤ ·)
  have few : (places.filter (¬front.length ≤ ·)).card ≤ 1 := by
    refine Finset.card_le_one.mpr fun left leftIn right rightIn => ?_
    rw [Finset.mem_filter] at leftIn rightIn
    by_contra differ
    rcases Nat.lt_or_gt_of_ne differ with lower | higher
    · have order := packs.add_length_le nonempty leftIn.1 rightIn.1 lower
      omega
    · have order := packs.add_length_le nonempty rightIn.1 leftIn.1 higher
      omega
  omega

end Order

theorem card_behind (front : Nat) :
    ((places.filter (front ≤ ·)).image (· - front)).card = (places.filter (front ≤ ·)).card := by
  refine Finset.card_image_of_injOn fun left leftIn right rightIn same => ?_
  rw [Finset.mem_coe, Finset.mem_filter] at leftIn rightIn
  omega

end Packs

/-! ## Counting from left to right -/

section Scan

variable [DecidableEq Item]

theorem countFrom_add (first : Item) (others : List Item) (found more : Nat) (items : List Item) :
    countFrom first others (found + more) items = countFrom first others found items + more := by
  fun_induction countFrom first others found items with
  | case1 found => rw [countFrom]
  | case2 found item rest occurs ih => rw [countFrom, if_pos occurs, Nat.add_right_comm, ih]
  | case3 found item rest differs ih => rw [countFrom, if_neg differs, ih]

theorem count_nil (nonempty : pattern ≠ []) : count [] pattern = 0 := by
  cases pattern with
  | nil => exact absurd rfl nonempty
  | cons first others => rw [count, countFrom]

/-- An occurrence right at the start is counted, and what follows it is searched. -/
theorem count_append (nonempty : pattern ≠ []) (rest : List Item) :
    count (pattern ++ rest) pattern = count rest pattern + 1 := by
  cases pattern with
  | nil => exact absurd rfl nonempty
  | cons first others =>
      have occurs : first = first ∧ others.isPrefixOf (others ++ rest) = true := by simp
      rw [count, List.cons_append, countFrom, if_pos occurs, countFrom_add, List.drop_left, count]

/-- Where no occurrence starts, the search goes on with the next item. -/
theorem count_cons {item : Item} {rest : List Item} (nonempty : pattern ≠ [])
    (differs : ¬pattern <+: item :: rest) : count (item :: rest) pattern = count rest pattern := by
  cases pattern with
  | nil => exact absurd rfl nonempty
  | cons first others =>
      have apart : ¬(item = first ∧ others.isPrefixOf rest = true) := by
        rw [List.isPrefixOf_iff_prefix]
        rintro ⟨rfl, occurs⟩
        exact differs (List.cons_prefix_cons.mpr ⟨rfl, occurs⟩)
      rw [count, countFrom, if_neg apart, count]

/-- Induction along a search: each step leaves out an occurrence at the start, or else the first
item. -/
theorem scan_induction (nonempty : pattern ≠ []) {motive : List Item → Prop} (nil : motive [])
    (occurs : ∀ rest, motive rest → motive (pattern ++ rest))
    (differs : ∀ item rest, ¬pattern <+: item :: rest → motive rest → motive (item :: rest))
    (items : List Item) : motive items := by
  induction size : items.length using Nat.strongRecOn generalizing items with
  | _ size ih =>
      subst size
      by_cases found : pattern <+: items
      · rcases found with ⟨rest, rfl⟩
        have positive := List.length_pos_of_ne_nil nonempty
        refine occurs rest (ih rest.length ?_ rest rfl)
        rw [List.length_append]
        omega
      · cases items with
        | nil => exact nil
        | cons item rest => exact differs item rest found (ih rest.length (by simp) rest rfl)

theorem count_mul_length_le (nonempty : pattern ≠ []) (items : List Item) :
    count items pattern * pattern.length ≤ items.length := by
  induction items using scan_induction nonempty with
  | nil => rw [count_nil nonempty, Nat.zero_mul, List.length_nil]
  | occurs rest ih =>
      rw [count_append nonempty, Nat.succ_mul, List.length_append]
      omega
  | differs item rest differs ih =>
      rw [count_cons nonempty differs, List.length_cons]
      omega

theorem count_le (items pattern : List Item) : count items pattern ≤ items.length + 1 := by
  by_cases empty : pattern = []
  · rw [empty, count]
  · have longest := count_mul_length_le empty items
    have positive := List.length_pos_of_ne_nil empty
    exact Nat.le_succ_of_le ((Nat.le_mul_of_pos_right _ positive).trans longest)

/-- The occurrences that are counted do not overlap. -/
theorem exists_packs (nonempty : pattern ≠ []) (items : List Item) :
    ∃ places, Packs pattern items places ∧ places.card = count items pattern := by
  induction items using scan_induction nonempty with
  | nil => exact ⟨∅, .empty _ _, by rw [count_nil nonempty, Finset.card_empty]⟩
  | occurs rest ih =>
      rcases ih with ⟨places, packs, size⟩
      have later := packs.append_left nonempty pattern
      have distinct : 0 ∉ places.image (pattern.length + ·) := by
        simp [List.length_eq_zero_iff, nonempty]
      refine ⟨insert 0 (places.image (pattern.length + ·)), ?_, ?_⟩
      · refine .of_order nonempty ?_ ?_
        · rintro place member
          rcases Finset.mem_insert.mp member with rfl | inLater
          · exact List.prefix_append pattern rest
          · exact later.occurs place inLater
        · rintro left leftIn right rightIn lower
          rcases Finset.mem_insert.mp rightIn with rfl | rightLater
          · exact absurd lower (Nat.not_lt_zero left)
          · rcases Finset.mem_insert.mp leftIn with rfl | leftLater
            · rcases Finset.mem_image.mp rightLater with ⟨place, _, rfl⟩
              omega
            · exact later.add_length_le nonempty leftLater rightLater lower
      · rw [Finset.card_insert_of_notMem distinct,
          Finset.card_image_of_injective _ fun _ _ => Nat.add_left_cancel, size,
          count_append nonempty]
  | differs item rest differs ih =>
      rcases ih with ⟨places, packs, size⟩
      refine ⟨_, packs.append_left nonempty [item], ?_⟩
      rw [Finset.card_image_of_injective _ fun _ _ => Nat.add_left_cancel, size,
        count_cons nonempty differs]

/-- No choice of occurrences that do not overlap has more of them than are counted. -/
theorem card_le_count (nonempty : pattern ≠ []) (items : List Item) {places : Finset Nat}
    (packs : Packs pattern items places) : places.card ≤ count items pattern := by
  induction items using scan_induction nonempty generalizing places with
  | nil =>
      have none : places = ∅ := Finset.eq_empty_of_forall_notMem fun place member => by
        have occurs := packs.occurs place member
        rw [List.drop_nil, List.prefix_nil] at occurs
        exact nonempty occurs
      rw [none, Finset.card_empty]
      exact Nat.zero_le _
  | occurs rest ih =>
      -- Whichever occurrence comes first, the others start behind the one that is counted.
      have others := ih (packs.behind nonempty)
      have few := packs.card_le_add_one nonempty (Nat.le_refl pattern.length)
      rw [Packs.card_behind] at others
      rw [count_append nonempty]
      omega
  | differs item rest differs ih =>
      have onward : Packs pattern ([item] ++ rest) places := packs
      have others := ih (onward.behind nonempty)
      have all : places.filter (1 ≤ ·) = places := Finset.filter_true_of_mem fun place member => by
        rcases Nat.eq_zero_or_pos place with rfl | positive
        · exact absurd (packs.occurs 0 member) differs
        · exact positive
      rw [Packs.card_behind, List.length_singleton, all] at others
      rwa [count_cons nonempty differs]

theorem count_isGreatest (nonempty : pattern ≠ []) (items : List Item) :
    IsGreatest (packingSizes pattern items) (count items pattern) := by
  refine ⟨exists_packs nonempty items, ?_⟩
  rintro size ⟨places, packs, rfl⟩
  exact card_le_count nonempty items packs

theorem count_le_count_cons (nonempty : pattern ≠ []) (item : Item) (rest : List Item) :
    count rest pattern ≤ count (item :: rest) pattern := by
  rcases exists_packs nonempty rest with ⟨places, packs, size⟩
  have more := card_le_count nonempty _ (packs.append_left nonempty [item])
  rwa [Finset.card_image_of_injective _ fun _ _ => Nat.add_left_cancel, size] at more

/-- Where two rows meet, a search of both together may leave one occurrence for another one that
reaches over, but never has fewer of them. -/
theorem count_add_le (nonempty : pattern ≠ []) (left right : List Item) :
    count left pattern + count right pattern ≤ count (left ++ right) pattern := by
  induction left using scan_induction nonempty with
  | nil => rw [count_nil nonempty, Nat.zero_add, List.nil_append]
  | occurs rest ih =>
      rw [List.append_assoc, count_append nonempty, count_append nonempty]
      omega
  | differs item rest differs ih =>
      rw [count_cons nonempty differs]
      exact ih.trans (count_le_count_cons nonempty item (rest ++ right))

end Scan

/-! ## Searching byte by byte -/

theorem flatMap_utf8EncodeChar_prefix_iff {front letters : List Char} :
    front.flatMap String.utf8EncodeChar <+: letters.flatMap String.utf8EncodeChar ↔
      front <+: letters := by
  refine ⟨?_, ?_⟩
  · rintro ⟨rest, same⟩
    refine List.isPrefix_of_utf8Encode_append_eq_utf8Encode rest.toByteArray ?_
    exact (List.toByteArray_append ..).symm.trans (congrArg List.toByteArray same)
  · rintro ⟨rest, rfl⟩
    exact ⟨rest.flatMap String.utf8EncodeChar, (List.flatMap_append ..).symm⟩

/-- Only the first byte of a character can be the first one of a character. -/
theorem exists_utf8EncodeChar_eq_cons (letter : Char) :
    ∃ first others, String.utf8EncodeChar letter = first :: others ∧ first.IsUTF8FirstByte ∧
      ∀ byte ∈ others, ¬byte.IsUTF8FirstByte := by
  cases shape : String.utf8EncodeChar letter with
  | nil => exact absurd shape String.utf8EncodeChar_ne_nil
  | cons first others =>
      have starts (place : Nat) (inside : place < (first :: others).length) :
          (first :: others)[place].IsUTF8FirstByte ↔ place = 0 := by
        simp only [← shape]
        exact UInt8.isUTF8FirstByte_getElem_utf8EncodeChar
      refine ⟨first, others, rfl, (starts 0 (Nat.succ_pos _)).mpr rfl, fun byte member => ?_⟩
      rcases List.getElem_of_mem member with ⟨place, inside, rfl⟩
      intro isFirst
      exact Nat.succ_ne_zero place ((starts (place + 1) (Nat.succ_lt_succ inside)).mp isFirst)

/-- No occurrence of text starts inside a character. -/
theorem count_append_of_not_first {first : UInt8} (isFirst : first.IsUTF8FirstByte)
    (others : List UInt8) {inner : List UInt8} (inside : ∀ byte ∈ inner, ¬byte.IsUTF8FirstByte)
    (rest : List UInt8) :
    count (inner ++ rest) (first :: others) = count rest (first :: others) := by
  induction inner with
  | nil => rfl
  | cons byte inner ih =>
      rcases List.forall_mem_cons.mp inside with ⟨notFirst, later⟩
      have differs : ¬(first :: others) <+: byte :: (inner ++ rest) := by
        intro occurs
        rw [(List.cons_prefix_cons.mp occurs).1] at isFirst
        exact notFirst isFirst
      rw [List.cons_append, count_cons (List.cons_ne_nil first others) differs, ih later]

theorem count_flatMap_utf8EncodeChar {pattern : List Char} (nonempty : pattern ≠ [])
    (letters : List Char) :
    count (letters.flatMap String.utf8EncodeChar) (pattern.flatMap String.utf8EncodeChar) =
      count letters pattern := by
  have starts : ∃ first others,
      pattern.flatMap String.utf8EncodeChar = first :: others ∧ first.IsUTF8FirstByte := by
    cases pattern with
    | nil => exact absurd rfl nonempty
    | cons letter pattern =>
        rcases exists_utf8EncodeChar_eq_cons letter with ⟨first, others, encoded, isFirst, _⟩
        exact ⟨first, _, by rw [List.flatMap_cons, encoded, List.cons_append], isFirst⟩
  rcases starts with ⟨first, others, encoded, isFirst⟩
  have bytes : pattern.flatMap String.utf8EncodeChar ≠ [] := by
    rw [encoded]
    exact List.cons_ne_nil first others
  induction letters using scan_induction nonempty with
  | nil => rw [List.flatMap_nil, count_nil bytes, count_nil nonempty]
  | occurs rest ih => rw [List.flatMap_append, count_append bytes, count_append nonempty, ih]
  | differs letter rest differs ih =>
      rcases exists_utf8EncodeChar_eq_cons letter with ⟨head, inner, shape, _, inside⟩
      have bytesDiffer : ¬pattern.flatMap String.utf8EncodeChar <+:
          head :: (inner ++ rest.flatMap String.utf8EncodeChar) := by
        rwa [← flatMap_utf8EncodeChar_prefix_iff, List.flatMap_cons, shape,
          List.cons_append] at differs
      rw [List.flatMap_cons, shape, List.cons_append, count_cons bytes bytesDiffer, encoded,
        count_append_of_not_first isFirst others inside, ← encoded, ih, count_cons nonempty differs]

end Occurrence

theorem length_le_utf8ByteSize (text : String) : text.length ≤ text.utf8ByteSize := by
  rw [← length_sourceBytes, sourceBytes_eq_flatMap, ← String.length_toList]
  induction text.toList with
  | nil => exact Nat.le_refl 0
  | cons letter rest ih =>
      have positive := letter.utf8Size_pos
      rw [List.flatMap_cons, List.length_append, String.length_utf8EncodeChar, List.length_cons]
      omega

namespace Builtin

open Occurrence (packingSizes)

/-- The number of occurrences in a text whose length 64 bits can count. -/
theorem toInt_count {text : String} (measured : text.utf8ByteSize + 1 < 2 ^ 63)
    (pattern : String) :
    (Int64.ofNat (Occurrence.count text.toList pattern.toList)).toInt =
      Occurrence.count text.toList pattern.toList := by
  refine Int64.toInt_ofNat_of_lt (Nat.lt_of_le_of_lt ?_ measured)
  have letters := length_le_utf8ByteSize text
  have few := Occurrence.count_le text.toList pattern.toList
  rw [String.length_toList] at few
  omega

/-- The built-in function `count` answers the greatest number of occurrences of which no two
overlap, whether they are searched character by character or byte by byte. -/
theorem apply_count_packs (text pattern : String) :
    let number := Occurrence.count text.toList pattern.toList
    Builtin.apply .count [.string text, .string pattern] = .ok (.int (Int64.ofNat number)) ∧
      (text.utf8ByteSize + 1 < 2 ^ 63 → (Int64.ofNat number).toInt = number) ∧
      (pattern = "" → number = text.length + 1) ∧
      (pattern ≠ "" →
        IsGreatest (packingSizes pattern.toList text.toList) number ∧
        IsGreatest (packingSizes (sourceBytes pattern) (sourceBytes text)) number ∧
        Occurrence.count (sourceBytes text) (sourceBytes pattern) = number ∧
        number * pattern.utf8ByteSize ≤ text.utf8ByteSize ∧
        ∀ other : String, number + Occurrence.count other.toList pattern.toList ≤
          Occurrence.count (text ++ other).toList pattern.toList) := by
  intro number
  refine ⟨rfl, fun measured => toInt_count measured pattern, ?_, fun nonempty => ?_⟩
  · rintro rfl
    exact congrArg (· + 1) String.length_toList
  · have letters : pattern.toList ≠ [] := mt String.toList_eq_nil_iff.mp nonempty
    have bytes : Occurrence.count (sourceBytes text) (sourceBytes pattern) = number := by
      rw [sourceBytes_eq_flatMap, sourceBytes_eq_flatMap,
        Occurrence.count_flatMap_utf8EncodeChar letters]
    have longest := Occurrence.count_mul_length_le (sourceBytes_ne_nil nonempty) (sourceBytes text)
    rw [length_sourceBytes, length_sourceBytes, bytes] at longest
    refine ⟨Occurrence.count_isGreatest letters _, ?_, bytes, longest, fun other => ?_⟩
    · rw [← bytes]
      exact Occurrence.count_isGreatest (sourceBytes_ne_nil nonempty) _
    · rw [String.toList_append]
      exact Occurrence.count_add_le letters _ _

/-- Three occurrences of `aéa` overlap one another in a row, so that two of them can be had. -/
theorem apply_count_packs_overlapping :
    "aéa" ≠ "" ∧ IsGreatest (packingSizes "aéa".toList "aéaéaéa".toList) 2 := by
  have nonempty : "aéa" ≠ "" := by decide
  have number : Occurrence.count "aéaéaéa".toList "aéa".toList = 2 := by cbv
  refine ⟨nonempty, ?_⟩
  rw [← number]
  exact ((apply_count_packs "aéaéaéa" "aéa").2.2.2 nonempty).1

end Builtin

end Monkey
