import ConstructEngine.Proof.Attributes
import Mathlib.Data.List.TakeWhile

namespace ConstructEngine.Stun

/-- Two numbers below sixteen have different digits. -/
theorem digitChar_injective {first second : Nat} (small : first < 16) (bounded : second < 16)
    (same : first.digitChar = second.digitChar) : first = second := by
  have each : ∀ first : Fin 16, ∀ second : Fin 16,
      first.val.digitChar = second.val.digitChar → first = second := by decide
  exact congrArg Fin.val (each ⟨first, small⟩ ⟨second, bounded⟩ same)

section
variable {base : Nat} (large : 1 < base) (hexadecimal : base ≤ 16)
include large hexadecimal

/-- The last digit gives the remainder, and the digits before it give the quotient. -/
theorem toDigits_injective {first second : Nat}
    (same : Nat.toDigits base first = Nat.toDigits base second) : first = second := by
  induction first using Nat.strongRecOn generalizing second with
  | ind first inductionHypothesis =>
      have divide {number : Nat} (many : base ≤ number) : Nat.toDigits base number =
          Nat.toDigits base (number / base) ++ [(number % base).digitChar] :=
        Nat.toDigits_of_base_le large many
      have short {number : Nat} (few : number < base) :
          Nat.toDigits base number = [] ++ [number.digitChar] := Nat.toDigits_of_lt_base few
      have remainder (number : Nat) : number % base < 16 :=
        Nat.lt_of_lt_of_le (Nat.mod_lt number (by omega)) hexadecimal
      by_cases few : first < base <;> by_cases less : second < base
      · rw [short few, short less] at same
        have digits := (List.append_inj' same rfl).2
        exact digitChar_injective (by omega) (by omega) (List.cons.inj digits).1
      · rw [short few, divide (Nat.le_of_not_lt less)] at same
        exact absurd (List.append_inj' same rfl).1.symm Nat.toDigits_ne_nil
      · rw [divide (Nat.le_of_not_lt few), short less] at same
        exact absurd (List.append_inj' same rfl).1 Nat.toDigits_ne_nil
      · rw [divide (Nat.le_of_not_lt few), divide (Nat.le_of_not_lt less)] at same
        obtain ⟨quotients, last⟩ := List.append_inj' same rfl
        have quotient : first / base = second / base :=
          inductionHypothesis (first / base) (Nat.div_lt_self (by omega) large) quotients
        have rest : first % base = second % base :=
          digitChar_injective (remainder first) (remainder second) (List.cons.inj last).1
        rw [← Nat.div_add_mod first base, ← Nat.div_add_mod second base, quotient, rest]

/-- No digit is a separator of an address. -/
theorem separators_notMem_toDigits (number : Nat) :
    ':' ∉ Nat.toDigits base number ∧ '.' ∉ Nat.toDigits base number := by
  have digit : ∀ number : Fin 16, ':' ≠ number.val.digitChar ∧ '.' ≠ number.val.digitChar := by decide
  induction number using Nat.strongRecOn with
  | ind number inductionHypothesis =>
      by_cases few : number < base
      · rw [Nat.toDigits_of_lt_base few]
        simp only [List.mem_singleton]
        exact digit ⟨number, Nat.lt_of_lt_of_le few hexadecimal⟩
      · rw [Nat.toDigits_of_base_le large (by omega)]
        obtain ⟨colon, dot⟩ := inductionHypothesis (number / base) (Nat.div_lt_self (by omega) large)
        have small : number % base < 16 := Nat.lt_of_lt_of_le (Nat.mod_lt number (by omega)) hexadecimal
        obtain ⟨colonLast, dotLast⟩ := digit ⟨number % base, small⟩
        simp only [List.mem_append, List.mem_singleton, not_or]
        exact ⟨⟨colon, colonLast⟩, dot, dotLast⟩

end

/-- Different bytes give different texts of an IPv4 address. -/
theorem ipv4Text_injective {first second : Bytes} (some' : first ≠ []) (present : second ≠ [])
    (same : ipv4Text first = ipv4Text second) : first = second := by
  have groups {ip : Bytes} (given : ip ≠ []) :
      (ipv4Text ip).toList.splitOn '.' = ip.map fun byte => Nat.toDigits 10 byte.toNat := by
    have shape : (ipv4Text ip).toList = ['.'].intercalate (ip.map fun byte => Nat.toDigits 10 byte.toNat) := by
      rw [ipv4Text, String.toList_intercalate, List.map_map]
      congr 1
      refine List.map_congr_left fun byte _ => ?_
      exact Nat.toList_repr
    rw [shape]
    refine List.splitOn_intercalate '.' ?_ (by simpa using given)
    intro group member
    obtain ⟨byte, -, rfl⟩ := List.mem_map.mp member
    exact (separators_notMem_toDigits (by decide) (by decide) byte.toNat).2
  have split := groups some'
  rw [same, groups present] at split
  refine List.map_injective_iff.mpr (fun one other equal => ?_) split.symm
  exact UInt8.toNat_inj.mp (toDigits_injective (by decide) (by decide) equal)

/-- The numbers have a run of zeroes at the place of the span. -/
def Span.Within (span : Span) (segments : List Nat) : Prop :=
  ∃ front back, segments = front ++ List.replicate span.length 0 ++ back ∧ front.length = span.start

/-- The current run ends with the last number that was read. -/
def Span.Ends (span : Span) (segments : List Nat) : Prop :=
  ∃ front, segments = front ++ List.replicate span.length 0 ∧ front.length = span.start

/-- The fold has read the numbers of the front. The current run counts only when it is not empty. -/
theorem longestZeroes_within (segments : List Nat) : (longestZeroes segments).Within segments := by
  have grown {span : Span} {front : List Nat} (segment : Nat) (within : span.Within front) :
      span.Within (front ++ [segment]) := by
    obtain ⟨before, after, rfl, start⟩ := within
    exact ⟨before, after ++ [segment], by simp, start⟩
  unfold longestZeroes
  dsimp only
  generalize folds : (fun (spans : Span × Span) (segment : Nat × Nat) =>
    if segment.1 = 0 then _ else _) = step
  have later (rest : List Nat) : ∀ (front : List Nat) (longest current : Span),
      longest.Within front → (current.length ≠ 0 → current.Ends front) →
        ((rest.zipIdx front.length).foldl step (longest, current)).1.Within (front ++ rest) := by
    induction rest with
    | nil =>
        intro front longest current within _
        simpa using within
    | cons segment rest inductionHypothesis =>
        intro front longest current within ends
        have shape : front ++ segment :: rest = (front ++ [segment]) ++ rest := by simp
        have length : front.length + 1 = (front ++ [segment]).length := by simp
        rw [List.zipIdx_cons, List.foldl_cons, shape, length]
        subst folds
        dsimp only
        split
        · next zero =>
          subst zero
          have ends : Span.Ends ⟨if current.length = 0 then front.length else current.start,
              current.length + 1⟩ (front ++ [0]) := by
            by_cases empty : current.length = 0
            · exact ⟨front, by simp [empty], by simp [empty]⟩
            · obtain ⟨before, whole, start⟩ := ends empty
              refine ⟨before, ?_, by simp [empty, start]⟩
              rw [whole, List.append_assoc, ← List.replicate_succ']
          refine inductionHypothesis _ _ _ ?_ fun _ => ends
          split
          · obtain ⟨before, whole, start⟩ := ends
            exact ⟨before, [], by simpa using whole, start⟩
          · exact grown 0 within
        · exact inductionHypothesis _ _ _ (grown segment within) fun some' => absurd rfl some'
  exact later segments [] {} {} ⟨[], [], rfl, rfl⟩ fun some' => absurd rfl some'

theorem intercalate_append {α : Type} (separator : List α) {front back : List (List α)} (some' : front ≠ [])
    (present : back ≠ []) : separator.intercalate (front ++ back) =
      separator.intercalate front ++ separator ++ separator.intercalate back := by
  induction front with
  | nil => exact absurd rfl some'
  | cons first rest inductionHypothesis =>
      by_cases last : rest = []
      · rw [last, List.singleton_append, List.intercalate_cons_of_ne_nil present,
          List.intercalate_singleton]
      · rw [List.cons_append, List.intercalate_cons_of_ne_nil (List.append_ne_nil_of_left_ne_nil last back),
          List.intercalate_cons_of_ne_nil last, inductionHypothesis last]
        simp only [List.append_assoc]

theorem notMem_intercalate {α : Type} {item : α} {separator : List α} {groups : List (List α)}
    (outside : item ∉ separator) (absent : ∀ group ∈ groups, item ∉ group) :
    item ∉ separator.intercalate groups := by
  induction groups with
  | nil => exact List.not_mem_nil
  | cons first rest inductionHypothesis =>
      have head := absent first List.mem_cons_self
      have tail := inductionHypothesis fun group member => absent group (List.mem_cons_of_mem first member)
      by_cases last : rest = []
      · rw [last, List.intercalate_singleton]
        exact head
      · rw [List.intercalate_cons_of_ne_nil last]
        simp only [List.mem_append, not_or]
        exact ⟨⟨head, outside⟩, tail⟩

/-- These are the digits of each number. -/
def digitGroups (segments : List Nat) : List (List Char) := segments.map (Nat.toDigits 16)

/-- Without numbers, one empty group stands at the side of the two colons. -/
def sideGroups (segments : List Nat) : List (List Char) :=
  if segments = [] then [[]] else digitGroups segments

theorem sideGroups_ne_nil (segments : List Nat) : sideGroups segments ≠ [] := by
  unfold sideGroups digitGroups
  split
  · exact List.cons_ne_nil _ _
  · next some' => simpa using some'

theorem segmentsText_toList (segments : List Nat) :
    (segmentsText segments).toList = [':'].intercalate (sideGroups segments) := by
  have hex : segments.map (String.toList ∘ hexLower) = digitGroups segments :=
    List.map_congr_left fun segment _ => String.toList_ofList
  rw [segmentsText, String.toList_intercalate, List.map_map, hex, sideGroups]
  split
  · next empty => subst empty; rfl
  · rfl

theorem digitGroups_filled (segments : List Nat) : ∀ group ∈ digitGroups segments, group ≠ [] := by
  intro group member
  obtain ⟨segment, -, rfl⟩ := List.mem_map.mp member
  exact Nat.toDigits_ne_nil

/-- No group has a separator in it. -/
theorem sideGroups_plain (segments : List Nat) :
    ∀ group ∈ sideGroups segments, ':' ∉ group ∧ '.' ∉ group := by
  intro group member
  unfold sideGroups at member
  split at member
  · cases List.mem_singleton.mp member
    exact ⟨List.not_mem_nil, List.not_mem_nil⟩
  · obtain ⟨segment, -, rfl⟩ := List.mem_map.mp member
    exact separators_notMem_toDigits (by decide) (by decide) segment

/-- The groups before the first empty one are read as numbers. -/
def readFront (groups : List (List Char)) : List (List Char) := groups.takeWhile fun group => !group.isEmpty

/-- Behind the first empty group, empty groups are only the marks of a side without numbers. -/
def readBack (groups : List (List Char)) : List (List Char) :=
  (groups.dropWhile fun group => !group.isEmpty).filter fun group => !group.isEmpty

theorem filled_all (segments : List Nat) : ∀ group ∈ digitGroups segments, (!group.isEmpty) = true := by
  intro group member
  simpa using digitGroups_filled segments group member

/-- Both sides of the two colons are read back. -/
theorem read_compressed (front back : List Nat) :
    readFront (sideGroups front ++ [[]] ++ sideGroups back) = digitGroups front ∧
      readBack (sideGroups front ++ [[]] ++ sideGroups back) = digitGroups back := by
  have side (segments : List Nat) : (sideGroups segments).filter (fun group => !group.isEmpty) =
      digitGroups segments := by
    unfold sideGroups
    split
    · next empty => subst empty; rfl
    · exact List.filter_eq_self.mpr (filled_all segments)
  unfold readFront readBack
  by_cases empty : front = []
  · subst empty
    have tail : (sideGroups [] ++ [[]] ++ sideGroups back) = [] :: [] :: sideGroups back := rfl
    rw [tail]
    simp [side, digitGroups]
  · have start : sideGroups front = digitGroups front := if_neg empty
    rw [start, List.append_assoc]
    constructor
    · rw [List.takeWhile_append_of_pos (filled_all front)]
      simp
    · rw [List.dropWhile_append_of_pos (filled_all front)]
      simp [side]

/-- A text without two colons is read back as a whole. -/
theorem read_whole (segments : List Nat) :
    readFront (digitGroups segments) = digitGroups segments ∧ readBack (digitGroups segments) = [] := by
  unfold readFront readBack
  rw [List.takeWhile_eq_self_iff.mpr (filled_all segments), List.dropWhile_eq_nil_iff.mpr (filled_all segments)]
  exact ⟨rfl, rfl⟩

/-- The text of the numbers shows those in front of its zeroes and those behind them. -/
def segmentsDisplay (segments : List Nat) : String :=
  let zeroes := longestZeroes segments
  if 1 < zeroes.length then
    segmentsText (segments.take zeroes.start) ++ "::" ++
      segmentsText (segments.drop (zeroes.start + zeroes.length))
  else segmentsText segments

/-- The text is made of groups of digits, which give back the numbers around the zeroes. -/
theorem segmentsDisplay_read {segments : List Nat} (some' : segments ≠ []) :
    ∃ groups front back, groups ≠ [] ∧ (segmentsDisplay segments).toList = [':'].intercalate groups ∧
      (∀ group ∈ groups, ':' ∉ group ∧ '.' ∉ group) ∧
      readFront groups = digitGroups front ∧ readBack groups = digitGroups back ∧
      segments = front ++ List.replicate (segments.length - (front.length + back.length)) 0 ++ back := by
  unfold segmentsDisplay
  dsimp only
  split
  · obtain ⟨front, back, whole, start⟩ := longestZeroes_within segments
    generalize longestZeroes segments = zeroes at whole start
    have before : segments.take zeroes.start = front := by
      rw [whole, List.append_assoc, ← start, List.take_left]
    have behind : segments.drop (zeroes.start + zeroes.length) = back := by
      rw [whole, ← start, List.drop_left' (by simp)]
    rw [before, behind]
    obtain ⟨readsFront, readsBack⟩ := read_compressed front back
    refine ⟨sideGroups front ++ [[]] ++ sideGroups back, front, back, by simp, ?_, ?_, readsFront,
      readsBack, ?_⟩
    · rw [String.toList_append, String.toList_append, segmentsText_toList, segmentsText_toList,
        intercalate_append _ (by simp) (sideGroups_ne_nil back),
        intercalate_append _ (sideGroups_ne_nil front) (by simp), List.intercalate_singleton]
      simp
    · intro group member
      rcases List.mem_append.mp member with left | right
      · rcases List.mem_append.mp left with left | middle
        · exact sideGroups_plain front group left
        · cases List.mem_singleton.mp middle
          exact ⟨List.not_mem_nil, List.not_mem_nil⟩
      · exact sideGroups_plain back group right
    · have length : segments.length - (front.length + back.length) = zeroes.length := by
        rw [whole]
        simp only [List.length_append, List.length_replicate]
        omega
      rw [length]
      exact whole
  · have whole : sideGroups segments = digitGroups segments := if_neg some'
    obtain ⟨readsFront, readsBack⟩ := read_whole segments
    refine ⟨sideGroups segments, segments, [], sideGroups_ne_nil segments, segmentsText_toList segments,
      sideGroups_plain segments, ?_, ?_, ?_⟩
    · rw [whole, readsFront]
    · rw [whole, readsBack]; rfl
    · simp

theorem digitGroups_injective : Function.Injective digitGroups :=
  List.map_injective_iff.mpr fun _ _ same => toDigits_injective (by decide) (by decide) same

/-- Different numbers give different texts. -/
theorem segmentsDisplay_injective {first second : List Nat} (some' : first ≠ [])
    (length : first.length = second.length)
    (same : segmentsDisplay first = segmentsDisplay second) : first = second := by
  have present : second ≠ [] := by
    rw [← List.length_pos_iff, ← length, List.length_pos_iff]
    exact some'
  obtain ⟨groups, front, back, filled, text, plain, readsFront, readsBack, whole⟩ := segmentsDisplay_read some'
  obtain ⟨others, start, stop, given, shown, bare, readsStart, readsStop, total⟩ := segmentsDisplay_read present
  have groupsSame : groups = others := by
    rw [← List.splitOn_intercalate ':' (fun group member => (plain group member).1) filled, ← text, same,
      shown, List.splitOn_intercalate ':' (fun group member => (bare group member).1) given]
  subst groupsSame
  have fronts : front = start := digitGroups_injective (readsFront.symm.trans readsStart)
  have backs : back = stop := digitGroups_injective (readsBack.symm.trans readsStop)
  subst fronts backs
  rw [whole, total, length]

/-- Only the text of a mapped IPv4 address has a dot. -/
theorem dot_notMem_segmentsDisplay {segments : List Nat} (some' : segments ≠ []) :
    '.' ∉ (segmentsDisplay segments).toList := by
  obtain ⟨groups, -, -, -, text, plain, -⟩ := segmentsDisplay_read some'
  rw [text]
  exact notMem_intercalate (by decide) fun group member => (plain group member).2

theorem ipv6Segments_length : (ip : Bytes) → (ipv6Segments ip).length = ip.length / 2
  | [] => rfl
  | [_] => by simp [ipv6Segments]
  | _ :: _ :: rest => by
      simp only [ipv6Segments, List.length_cons, ipv6Segments_length rest]
      omega

/-- An even number of bytes is determined by its numbers. -/
theorem ipv6Segments_injective : (first second : Bytes) → first.length = second.length →
    first.length % 2 = 0 → ipv6Segments first = ipv6Segments second → first = second
  | [], [], _, _, _ => rfl
  | f1 :: f2 :: first, s1 :: s2 :: second, length, even, same => by
      simp only [ipv6Segments, List.cons.injEq, u16FromBeBytes] at same
      simp only [List.length_cons] at length even
      obtain ⟨head, tail⟩ := same
      have high : f1.toNat = s1.toNat := by
        have firstLow := f2.toNat_lt
        have secondLow := s2.toNat_lt
        omega
      have low : f2.toNat = s2.toNat := by omega
      rw [UInt8.toNat_inj.mp high, UInt8.toNat_inj.mp low,
        ipv6Segments_injective first second (by omega) (by omega) tail]

/-- Different bytes give different texts of an IPv6 address. -/
theorem ipv6Text_injective {first second : Bytes} (sixteen : first.length = 16)
    (whole : second.length = 16) (same : ipv6Text first = ipv6Text second) : first = second := by
  have mapped {ip : Bytes} (found : ip.take 12 = List.replicate 10 0 ++ [0xff, 0xff]) :
      ipv6Text ip = "::ffff:" ++ ipv4Text (ip.drop 12) := if_pos found
  have unmapped {ip : Bytes} (other : ip.take 12 ≠ List.replicate 10 0 ++ [0xff, 0xff]) :
      ipv6Text ip = segmentsDisplay (ipv6Segments ip) := if_neg other
  have segments {ip : Bytes} (sixteen : ip.length = 16) : ipv6Segments ip ≠ [] := by
    rw [← List.length_pos_iff, ipv6Segments_length, sixteen]
    decide
  have rest {ip : Bytes} (sixteen : ip.length = 16) : ip.drop 12 ≠ [] := by
    rw [← List.length_pos_iff, List.length_drop, sixteen]
    decide
  have dotted {ip : Bytes} (sixteen : ip.length = 16) :
      '.' ∈ ("::ffff:" ++ ipv4Text (ip.drop 12)).toList := by
    have four : (ip.drop 12).length = 4 := by rw [List.length_drop, sixteen]
    match ip.drop 12, four with
    | [b1, b2, b3, b4], _ => simp [ipv4Text, String.toList_append]
  by_cases found : first.take 12 = List.replicate 10 0 ++ [0xff, 0xff] <;>
    by_cases other : second.take 12 = List.replicate 10 0 ++ [0xff, 0xff]
  · rw [mapped found, mapped other] at same
    have texts : ipv4Text (first.drop 12) = ipv4Text (second.drop 12) :=
      (String.append_right_inj _).mp same
    rw [← List.take_append_drop 12 first, ← List.take_append_drop 12 second, found, other,
      ipv4Text_injective (rest sixteen) (rest whole) texts]
  · rw [mapped found, unmapped other] at same
    exact absurd (same ▸ dotted sixteen) (dot_notMem_segmentsDisplay (segments whole))
  · rw [unmapped found, mapped other] at same
    exact absurd (same ▸ dotted whole) (dot_notMem_segmentsDisplay (segments sixteen))
  · rw [unmapped found, unmapped other] at same
    refine ipv6Segments_injective first second (sixteen.trans whole.symm) (by rw [sixteen]) ?_
    refine segmentsDisplay_injective (segments sixteen) ?_ same
    rw [ipv6Segments_length, ipv6Segments_length, sixteen, whole]

end ConstructEngine.Stun
