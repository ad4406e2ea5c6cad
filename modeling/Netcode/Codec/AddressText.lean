/-
**Addresses as text: what `ParseAddress` accepts.**

`ParseAddress` strips what it recognises and hands the rest to `net/netip`. The lemmas of the first
part say exactly what each piece does: the search for a port (`cutPort_ok_iff`), the brackets (`Rest`,
`stripBrackets_ok_iff`), and the whole (`parseAddress_ok_iff`).

* `parseAddress_string` — **the text of an IPv4 or IPv6 address is parsed back to that address**;
* `parseAddress_documented` — **what is parsed has one of the documented forms just if the string is
  `Regular`**: no IPv4 address stands in brackets, and the brackets are closed around the IPv6 address
  that is read. `unclosed_bracket_parsed` is a string with an unbalanced bracket that is parsed all the
  same.
-/

import Netcode.Model.Address
import Mathlib.Data.List.GetD

namespace Netcode

open Decimal

/-! ### Ports -/

/-- **A port**: a digit string of value at most 65535. -/
structure IsPort (s : Bytes) (port : UInt16) : Prop where
  ne_nil : s ≠ []
  digits : ∀ digit ∈ s, IsDigit digit
  value : Decimal.value s = port.toNat

theorem parsePortDigits_of_value {s : Bytes} {start : Nat} (digits : ∀ digit ∈ s, IsDigit digit)
    (small : valueFrom start s ≤ 65535) : parsePortDigits start s = some (valueFrom start s) := by
  induction s generalizing start with
  | nil => rfl
  | cons digit rest ih =>
    have isDigit := digits digit List.mem_cons_self
    have next : start * 10 + (digit - 48).toNat ≤ 65535 := (le_valueFrom _ rest).trans small
    rw [parsePortDigits, if_neg (by
      rintro (below | above)
      · exact absurd isDigit.1 (UInt8.not_le.mpr below)
      · exact absurd isDigit.2 (UInt8.not_le.mpr above)), if_neg (Nat.not_lt.mpr next)]
    exact ih (fun other member => digits other (List.mem_cons_of_mem _ member)) small

theorem parsePortDigits_eq_some {s : Bytes} {start value : Nat} (start_le : start ≤ 65535)
    (parsed : parsePortDigits start s = some value) :
    (∀ digit ∈ s, IsDigit digit) ∧ valueFrom start s = value ∧ value ≤ 65535 := by
  induction s generalizing start with
  | nil =>
    cases parsed
    exact ⟨fun _ member => (by cases member), rfl, start_le⟩
  | cons digit rest ih =>
    rw [parsePortDigits] at parsed
    split_ifs at parsed with noDigit large
    obtain ⟨digits, isValue, small⟩ := ih (Nat.not_lt.mp large) parsed
    refine ⟨fun other member => ?_, isValue, small⟩
    rcases List.mem_cons.mp member with rfl | later
    · rw [not_or, UInt8.not_lt, UInt8.not_lt] at noDigit
      exact noDigit
    · exact digits other later

/-- **`parsePort` accepts just the ports.** -/
theorem parsePort_eq_some_iff {s : Bytes} {port : UInt16} :
    parsePort s = some port ↔ IsPort s port := by
  unfold parsePort
  constructor
  · intro parsed
    split_ifs at parsed with isEmpty
    obtain ⟨value, isParsed, rfl⟩ := Option.map_eq_some_iff.mp parsed
    obtain ⟨digits, isValue, small⟩ := parsePortDigits_eq_some (Nat.zero_le _) isParsed
    refine ⟨fun nothing => isEmpty (by rw [nothing]; rfl), digits, ?_⟩
    rw [UInt16.toNat_ofNat', Nat.mod_eq_of_lt (by omega)]
    exact isValue
  · intro isPort
    have isValue : valueFrom 0 s = port.toNat := isPort.value
    have small : valueFrom 0 s ≤ 65535 := by
      have := port.toNat_lt
      omega
    rw [if_neg (fun isEmpty => isPort.ne_nil (List.length_eq_zero_iff.mp isEmpty)),
      parsePortDigits_of_value isPort.digits small, isValue, Option.map_some, UInt16.ofNat_toNat]

theorem isPort_text (port : UInt16) : IsPort (text port.toNat) port :=
  ⟨text_ne_nil _, text_isDigit _, value_text _⟩

/-- A byte that is not a digit is not in a port. -/
theorem IsPort.not_mem {s : Bytes} {port : UInt16} (isPort : IsPort s port) {byte : UInt8}
    (noDigit : ¬ IsDigit byte) : byte ∉ s :=
  fun member => noDigit (isPort.digits byte member)

/-- A port has at most five digits when it is printed. -/
theorem text_port_length (port : UInt16) : (text port.toNat).length ≤ 5 := by
  refine text_length_le 4 _ ?_
  have := port.toNat_lt
  omega

/-! ### The search for a port -/

section CutPort

variable {addressString s : Bytes} {lowest before : Nat} {isPort : Nat → Bool} {port : UInt16}

/-- Without a match in reach nothing is cut off. -/
theorem cutPort_absent (steps i : Nat) (absent : ∀ index, lowest ≤ index → index + i < s.length →
      s.length ≤ index + i + steps → isPort index = false) :
    cutPort addressString s lowest before isPort port steps i = .ok (s, port) := by
  induction steps generalizing i with
  | zero => rfl
  | succ steps ih =>
    rw [cutPort]
    split_ifs with below found
    · rfl
    · rw [absent _ (by omega) (by omega) (by omega)] at found
      cases found
    · exact ih (i + 1) fun index low inside near => absent index low (by omega) (by omega)

/-- **The last match is found**, if it is within reach. -/
theorem cutPort_finds {index : Nat} (found : isPort index = true) (low : lowest ≤ index)
    (last : ∀ later, index < later → later < s.length → isPort later = false) (steps i : Nat)
    (reached : i + index + 1 ≤ s.length) (near : s.length ≤ index + i + steps) :
    cutPort addressString s lowest before isPort port steps i =
      (parsePort (s.drop (index + 1))).elim (.error (.invalidPort addressString))
        fun port => .ok (s.take (index - before), port) := by
  induction steps generalizing i with
  | zero => omega
  | succ steps ih =>
    rw [cutPort]
    rw [if_neg (by omega)]
    by_cases here : s.length - 1 - i = index
    · rw [here, if_pos found]
      cases parsePort (s.drop (index + 1)) <;> rfl
    · have other : isPort (s.length - 1 - i) = false := last _ (by omega) (by omega)
      rw [if_neg (by rw [other]; exact Bool.false_ne_true)]
      exact ih (i + 1) (by omega) (by omega)

/-- Whatever is cut off is a port behind a match; if nothing is, there is no match in reach. -/
theorem cutPort_ok {s' : Bytes} {port' : UInt16} (steps i : Nat)
    (cut : cutPort addressString s lowest before isPort port steps i = .ok (s', port')) :
    (∃ index, lowest ≤ index ∧ index < s.length ∧ s.length ≤ index + i + steps ∧
        isPort index = true ∧ IsPort (s.drop (index + 1)) port' ∧ s' = s.take (index - before)) ∨
      (∀ index, lowest ≤ index → index + i < s.length → s.length ≤ index + i + steps →
        isPort index = false) ∧ s' = s ∧ port' = port := by
  induction steps generalizing i with
  | zero =>
    cases cut
    exact .inr ⟨fun index _ inside near => by omega, rfl, rfl⟩
  | succ steps ih =>
    rw [cutPort] at cut
    split_ifs at cut with below found
    · cases cut
      exact .inr ⟨fun index low inside _ => by omega, rfl, rfl⟩
    · cases parsed : parsePort (s.drop (s.length - 1 - i + 1)) with
      | none =>
        rw [parsed] at cut
        cases cut
      | some value =>
        rw [parsed] at cut
        cases cut
        exact .inl ⟨s.length - 1 - i, by omega, by omega, by omega, found,
          parsePort_eq_some_iff.mp parsed, rfl⟩
    · rcases ih (i + 1) cut with ⟨index, low, inside, near, rest⟩ | ⟨absent, same⟩
      · exact .inl ⟨index, low, inside, by omega, rest⟩
      · refine .inr ⟨fun index low inside near => ?_, same⟩
        by_cases here : index = s.length - 1 - i
        · rw [here]
          simpa using found
        · exact absent index low (by omega) (by omega)

/-- **What the search returns**: the text before a mark, with the port behind it; or all of the string,
if no mark is followed by less than six characters. -/
theorem cutPort_ok_iff {mark s' : Bytes} {port' : UInt16} (size : mark.length = before + 1)
    (isColon : ∀ index, isPort index = true → s[index]? = some colon)
    (isMark : ∀ index, lowest ≤ index → (isPort index = true ↔
      ∃ front p, s = front ++ mark ++ p ∧ front.length + before = index)) :
    cutPort addressString s lowest before isPort port 6 0 = .ok (s', port') ↔
      (∃ p, s = s' ++ mark ++ p ∧ lowest ≤ s'.length + before ∧ p.length ≤ 5 ∧ IsPort p port') ∨
      (∀ front p, s = front ++ mark ++ p → lowest ≤ front.length + before → 5 < p.length) ∧
        s' = s ∧ port' = port := by
  have pieces : ∀ {front p}, s = front ++ mark ++ p →
      s.length = front.length + before + 1 + p.length ∧
        s.drop (front.length + before + 1) = p ∧ s.take (front.length + before - before) = front := by
    rintro front p rfl
    have total : (front ++ mark).length = front.length + before + 1 := by
      rw [List.length_append]
      omega
    refine ⟨by rw [List.length_append, total], List.drop_left' total, ?_⟩
    rw [List.append_assoc]
    exact List.take_left' (by omega)
  constructor
  · intro cut
    rcases cutPort_ok 6 0 cut with ⟨index, low, inside, near, found, digits, rfl⟩ | ⟨absent, same⟩
    · obtain ⟨front, p, isText, rfl⟩ := (isMark index low).mp found
      obtain ⟨total, behind, ahead⟩ := pieces isText
      rw [behind] at digits
      rw [ahead]
      exact .inl ⟨p, isText, low, by omega, digits⟩
    · refine .inr ⟨fun front p isText low => ?_, same⟩
      obtain ⟨total, -⟩ := pieces isText
      by_contra short
      have none := absent _ low (by omega) (by omega)
      rw [(isMark _ low).mpr ⟨front, p, isText, rfl⟩] at none
      cases none
  · rintro (⟨p, isText, low, short, digits⟩ | ⟨absent, rfl, rfl⟩)
    · obtain ⟨total, behind, ahead⟩ := pieces isText
      have last : ∀ later, s'.length + before < later → later < s.length → isPort later = false := by
        intro later less _
        rw [← Bool.not_eq_true]
        intro found
        have isByte := isColon later found
        rw [isText, List.getElem?_append_right (by rw [List.length_append]; omega)] at isByte
        exact digits.not_mem (by decide) (List.mem_of_getElem? isByte)
      rw [cutPort_finds ((isMark _ low).mpr ⟨s', p, isText, rfl⟩) low last 6 0 (by omega) (by omega),
        behind, ahead, parsePort_eq_some_iff.mpr digits]
      rfl
    · refine cutPort_absent 6 0 fun index low inside near => ?_
      rw [← Bool.not_eq_true]
      intro found
      obtain ⟨front, p, isText, rfl⟩ := (isMark index low).mp found
      have long := absent front p isText low
      obtain ⟨total, -⟩ := pieces isText
      omega

end CutPort

/-- A byte at its place in a text. -/
theorem getElem?_eq_some_iff_append {s : Bytes} {index : Nat} {byte : UInt8} :
    s[index]? = some byte ↔ ∃ front back, s = front ++ byte :: back ∧ front.length = index := by
  constructor
  · intro found
    obtain ⟨inside, isByte⟩ := List.getElem?_eq_some_iff.mp found
    refine ⟨s.take index, s.drop (index + 1), ?_, List.length_take_of_le inside.le⟩
    rw [← isByte, List.getElem_cons_drop, List.take_append_drop]
  · rintro ⟨front, back, rfl, rfl⟩
    rw [List.getElem?_append_right (Nat.le_refl _), Nat.sub_self]
    rfl

/-- **"text:port"**, the port of at most five digits; or no colon before less than six characters. -/
theorem cutPlainPort_ok_iff {addressString s s' : Bytes} {port port' : UInt16} :
    cutPlainPort addressString s port = .ok (s', port') ↔
      (∃ p, s = s' ++ colon :: p ∧ p.length ≤ 5 ∧ IsPort p port') ∨
      (∀ front p, s = front ++ colon :: p → 5 < p.length) ∧ s' = s ∧ port' = port := by
  unfold cutPlainPort
  rw [@cutPort_ok_iff addressString s 0 0 _ port [colon] s' port' rfl
    (fun index isColon => of_decide_eq_true isColon) fun index _ => by
      rw [decide_eq_true_iff, getElem?_eq_some_iff_append]
      simp only [List.append_assoc, List.singleton_append, Nat.add_zero]]
  simp only [List.append_assoc, List.singleton_append, Nat.zero_le, true_and, forall_const]

/-- A text behind the opening bracket, before the rest. -/
theorem bracket_append_iff {r text rest : Bytes} :
    leftBracket :: r = text ++ rest ∧ 2 ≤ text.length ↔
      ∃ front, text = leftBracket :: front ∧ front ≠ [] ∧ r = front ++ rest := by
  constructor
  · rintro ⟨same, long⟩
    rcases List.cons_eq_append_iff.mp same with ⟨rfl, -⟩ | ⟨front, rfl, isText⟩
    · cases long
    · refine ⟨front, rfl, ?_, isText⟩
      rintro rfl
      exact absurd long (by decide)
  · rintro ⟨front, rfl, isText, rfl⟩
    exact ⟨rfl, Nat.succ_le_succ (List.length_pos_iff.mpr isText)⟩

/-- **"text]:port"** behind an opening bracket. -/
theorem cutBracketPort_ok_iff {addressString r s' : Bytes} {port : UInt16} :
    cutBracketPort addressString (leftBracket :: r) = .ok (s', port) ↔
      (∃ front p, r = front ++ rightBracket :: colon :: p ∧ front ≠ [] ∧ p.length ≤ 5 ∧
        IsPort p port ∧ s' = leftBracket :: front) ∨
      (∀ front p, r = front ++ rightBracket :: colon :: p → front ≠ [] → 5 < p.length) ∧
        s' = leftBracket :: r ∧ port = 0 := by
  have isMark : ∀ index, 3 ≤ index → ((decide ((leftBracket :: r)[index]? = some colon) &&
      decide ((leftBracket :: r)[index - 1]? = some rightBracket)) = true ↔
        ∃ front p, leftBracket :: r = front ++ [rightBracket, colon] ++ p ∧
          front.length + 1 = index) := by
    intro index low
    rw [Bool.and_eq_true, decide_eq_true_iff, decide_eq_true_iff, getElem?_eq_some_iff_append,
      getElem?_eq_some_iff_append]
    constructor
    · rintro ⟨⟨front, p, isText, rfl⟩, front', back, isText', place⟩
      rw [List.append_cons] at isText'
      obtain ⟨rfl, -⟩ := List.append_inj (isText.symm.trans isText')
        (by rw [List.length_append, List.length_singleton]; omega)
      refine ⟨front', p, by rw [isText, List.append_assoc, List.append_assoc]; rfl, by simp⟩
    · rintro ⟨front, p, isText, rfl⟩
      rw [List.append_assoc] at isText
      refine ⟨⟨front ++ [rightBracket], p, by simpa using isText, by simp⟩, front, colon :: p, isText,
        rfl⟩
  have split : ∀ text p, leftBracket :: r = text ++ [rightBracket, colon] ++ p ∧ 3 ≤ text.length + 1 ↔
      ∃ front, text = leftBracket :: front ∧ front ≠ [] ∧ r = front ++ rightBracket :: colon :: p := by
    intro text p
    rw [← bracket_append_iff, List.append_assoc, Nat.succ_le_succ_iff]
    rfl
  unfold cutBracketPort
  rw [cutPort_ok_iff rfl (fun index found => of_decide_eq_true (Bool.and_eq_true_iff.mp found).1) isMark]
  constructor
  · rintro (⟨p, isText, long, short, digits⟩ | ⟨absent, same⟩)
    · obtain ⟨front, rfl, nonempty, isText⟩ := (split _ _).mp ⟨isText, long⟩
      exact .inl ⟨front, p, isText, nonempty, short, digits, rfl⟩
    · refine .inr ⟨fun front p isText nonempty => ?_, same⟩
      obtain ⟨isText, long⟩ := (split _ _).mpr ⟨front, rfl, nonempty, isText⟩
      exact absent _ p isText long
  · rintro (⟨front, p, isText, nonempty, short, digits, rfl⟩ | ⟨absent, same⟩)
    · obtain ⟨isText, long⟩ := (split _ _).mpr ⟨front, rfl, nonempty, isText⟩
      exact .inl ⟨p, isText, long, short, digits⟩
    · refine .inr ⟨fun text p isText long => ?_, same⟩
      obtain ⟨front, rfl, nonempty, isText⟩ := (split _ _).mp ⟨isText, long⟩
      exact absent front p isText nonempty

/-! ### Brackets -/

/-- **What is left of a string** when its brackets are stripped, with the port behind them. -/
inductive Rest : Bytes → Bytes → UInt16 → Prop
  | plain {s : Bytes} (noBracket : s.head? ≠ some leftBracket) : Rest s s 0
  | port {front p : Bytes} {port : UInt16} (isText : front ≠ []) (short : p.length ≤ 5)
      (isPort : IsPort p port) :
      Rest (leftBracket :: front ++ rightBracket :: colon :: p) (trimBracket front) port
  | bracket {inner : Bytes} (noPort : ∀ front p, inner = front ++ rightBracket :: colon :: p →
      front ≠ [] → 5 < p.length) : Rest (leftBracket :: inner) (trimBracket inner) 0

theorem trimBracket_of_not_mem {s : Bytes} (absent : rightBracket ∉ s) : trimBracket s = s := by
  unfold trimBracket
  rw [if_neg fun last => absent (List.mem_of_getLast? last)]

theorem trimBracket_cons (inner : Bytes) :
    (trimBracket (leftBracket :: inner)).tail = trimBracket inner := by
  cases inner with
  | nil => rfl
  | cons byte rest =>
    unfold trimBracket
    rw [List.getLast?_cons_cons]
    split_ifs
    · rw [List.dropLast_cons_cons, List.tail_cons]
    · rfl

/-- **The brackets are stripped to what is left.** -/
theorem stripBrackets_ok_iff {s rest : Bytes} {port : UInt16} :
    (if s.head? = some leftBracket then stripBrackets s else .ok (s, 0)) = .ok (rest, port) ↔
      Rest s rest port := by
  constructor
  · intro stripped
    split_ifs at stripped with bracket
    · obtain ⟨inner, rfl⟩ : ∃ inner, s = leftBracket :: inner := by
        cases s with
        | nil => cases bracket
        | cons byte inner => exact ⟨inner, by rw [Option.some_inj.mp bracket]⟩
      unfold stripBrackets at stripped
      cases cut : cutBracketPort (leftBracket :: inner) (leftBracket :: inner) with
      | error err =>
        rw [cut] at stripped
        cases stripped
      | ok found =>
        rw [cut] at stripped
        cases stripped
        rcases cutBracketPort_ok_iff.mp cut with
          ⟨front, p, rfl, isText, short, isPort, same⟩ | ⟨noPort, same, isPort⟩
        · rw [same, trimBracket_cons]
          exact .port isText short isPort
        · rw [same, trimBracket_cons, isPort]
          exact .bracket noPort
    · cases stripped
      exact .plain bracket
  · intro isRest
    cases isRest with
    | plain noBracket => exact if_neg noBracket
    | port isText short isPort =>
      rw [List.cons_append, List.head?_cons, if_pos rfl]
      unfold stripBrackets
      rw [cutBracketPort_ok_iff.mpr (.inl ⟨_, _, rfl, isText, short, isPort, rfl⟩)]
      exact congrArg (fun text => Except.ok (text, port)) (trimBracket_cons _)
    | bracket noPort =>
      rw [List.head?_cons, if_pos rfl]
      unfold stripBrackets
      rw [cutBracketPort_ok_iff.mpr (.inr ⟨noPort, rfl, rfl⟩)]
      exact congrArg (fun text => Except.ok (text, 0)) (trimBracket_cons _)

theorem Rest.unique {s rest rest' : Bytes} {port port' : UInt16} (first : Rest s rest port)
    (second : Rest s rest' port') : rest = rest' ∧ port = port' := by
  cases (stripBrackets_ok_iff.mpr first).symm.trans (stripBrackets_ok_iff.mpr second)
  exact ⟨rfl, rfl⟩

/-! ### What is left without brackets -/

/-- The addresses `ParseAddress` returns. -/
def ipv4Address (raw : FixedBytes 4) (port : UInt16) : Address :=
  { Address.none with type := AddressIPv4, ipv4 := raw, port := port }

def ipv6Address (raw : FixedBytes 16) (port : UInt16) : Address :=
  { Address.none with type := AddressIPv6, ipv6 := groupsOf raw, port := port }

/-- The end of `ParseAddress`, on the string and the port it is left with. -/
def parseIPv4 (netip : Netip) (addressString : Bytes) (stripped : Bytes × UInt16) :
    Except AddressError Address :=
  match netip.parseAddr stripped.1 with
  | some (.ip4 raw) => .ok (ipv4Address raw stripped.2)
  | _ => .error (.failedToParse addressString)

/-- `ParseAddress` behind the brackets. -/
def parseBare (netip : Netip) (addressString s : Bytes) (port : UInt16) :
    Except AddressError Address :=
  match netip.parseAddr s with
  | some (.ip6 raw) => .ok (ipv6Address raw port)
  | _ => cutPlainPort addressString s port >>= parseIPv4 netip addressString

/-- **An IPv4 address is read** from what is left of a string: it is a literal, or a literal with a port
of at most five digits. -/
inductive ReadsIPv4 (netip : Netip) (port : UInt16) : Bytes → FixedBytes 4 → UInt16 → Prop
  | literal {s : Bytes} {raw : FixedBytes 4} (accepted : netip.parseAddr s = some (.ip4 raw))
      (noPort : ∀ front p, s = front ++ colon :: p → 5 < p.length) : ReadsIPv4 netip port s raw port
  | port {literal p : Bytes} {raw : FixedBytes 4} {port' : UInt16}
      (accepted : netip.parseAddr literal = some (.ip4 raw)) (short : p.length ≤ 5)
      (isPort : IsPort p port')
      (other : ∀ raw, netip.parseAddr (literal ++ colon :: p) ≠ some (.ip6 raw)) :
      ReadsIPv4 netip port (literal ++ colon :: p) raw port'

section Bare

variable {netip : Netip} {s addressString : Bytes} {port : UInt16} {address : Address}

theorem parseIPv4_ok_iff {stripped : Bytes × UInt16} :
    parseIPv4 netip addressString stripped = .ok address ↔
      ∃ raw, netip.parseAddr stripped.1 = some (.ip4 raw) ∧ address = ipv4Address raw stripped.2 := by
  unfold parseIPv4
  constructor
  · intro parsed
    split at parsed
    · next raw literal =>
      cases parsed
      exact ⟨raw, literal, rfl⟩
    · cases parsed
  · rintro ⟨raw, literal, rfl⟩
    rw [literal]

/-- **What is parsed without brackets**: an IPv6 literal, or an IPv4 address. -/
theorem parseBare_ok_iff :
    parseBare netip addressString s port = .ok address ↔
      (∃ raw, netip.parseAddr s = some (.ip6 raw) ∧ address = ipv6Address raw port) ∨
      ∃ raw port', ReadsIPv4 netip port s raw port' ∧ address = ipv4Address raw port' := by
  unfold parseBare
  split
  · next raw literal =>
    constructor
    · intro parsed
      cases parsed
      exact .inl ⟨raw, literal, rfl⟩
    · rintro (⟨raw', literal', rfl⟩ | ⟨raw', port', reads, -⟩)
      · cases literal.symm.trans literal'
        rfl
      · cases reads with
        | literal accepted => cases literal.symm.trans accepted
        | port _ _ _ other => exact absurd literal (other raw)
  · next other =>
    constructor
    · intro parsed
      right
      cases cut : cutPlainPort addressString s port with
      | error err =>
        rw [cut] at parsed
        cases parsed
      | ok stripped =>
        obtain ⟨s', port'⟩ := stripped
        rw [cut] at parsed
        obtain ⟨raw, accepted, rfl⟩ := parseIPv4_ok_iff.mp parsed
        rcases cutPlainPort_ok_iff.mp cut with ⟨p, rfl, short, isPort⟩ | ⟨noPort, rfl, rfl⟩
        · exact ⟨raw, port', .port accepted short isPort other, rfl⟩
        · exact ⟨raw, port', .literal accepted noPort, rfl⟩
    · rintro (⟨raw, literal, -⟩ | ⟨raw, port', reads, rfl⟩)
      · exact absurd literal (other raw)
      · cases reads with
        | literal accepted noPort =>
          rw [cutPlainPort_ok_iff.mpr (.inr ⟨noPort, rfl, rfl⟩)]
          exact parseIPv4_ok_iff.mpr ⟨raw, accepted, rfl⟩
        | port accepted short isPort =>
          rw [cutPlainPort_ok_iff.mpr (.inl ⟨_, rfl, short, isPort⟩)]
          exact parseIPv4_ok_iff.mpr ⟨raw, accepted, rfl⟩

/-- **What `ParseAddress` accepts**: the first 255 bytes, stripped of their brackets, are an IPv6 literal
or an IPv4 address. -/
theorem parseAddress_ok_iff :
    parseAddress netip s = .ok address ↔ ∃ rest port, Rest (s.take 255) rest port ∧
      ((∃ raw, netip.parseAddr rest = some (.ip6 raw) ∧ address = ipv6Address raw port) ∨
        ∃ raw port', ReadsIPv4 netip port rest raw port' ∧ address = ipv4Address raw port') := by
  have same : parseAddress netip s = (if (s.take 255).head? = some leftBracket
      then stripBrackets (s.take 255) else .ok (s.take 255, 0)) >>= fun stripped =>
        parseBare netip (s.take 255) stripped.1 stripped.2 := rfl
  rw [same]
  constructor
  · intro parsed
    cases stripped : (if (s.take 255).head? = some leftBracket
      then stripBrackets (s.take 255) else .ok (s.take 255, 0)) with
    | error err =>
      rw [stripped] at parsed
      cases parsed
    | ok found =>
      obtain ⟨rest, port⟩ := found
      rw [stripped] at parsed
      exact ⟨rest, port, stripBrackets_ok_iff.mp stripped, parseBare_ok_iff.mp parsed⟩
  · rintro ⟨rest, port, isRest, reads⟩
    rw [stripBrackets_ok_iff.mpr isRest]
    exact parseBare_ok_iff.mpr reads

end Bare

/-! ### Printed addresses -/

/-- The bytes of a group, put together again. -/
theorem group_of_bytes (group : UInt16) :
    (group >>> 8).toUInt8.toUInt16 <<< 8 ||| group.toUInt8.toUInt16 = group := by
  have small := group.toNat_lt
  have high : group.toNat >>> 8 % 2 ^ 8 = group.toNat / 256 := by
    rw [Nat.shiftRight_eq_div_pow]
    omega
  have shifted : (group.toNat / 256) <<< 8 % 2 ^ 16 = (group.toNat / 256) <<< 8 := by
    rw [Nat.shiftLeft_eq]
    omega
  rw [← UInt16.toNat_inj, UInt16.toNat_or, UInt16.toNat_shiftLeft, UInt8.toNat_toUInt16,
    UInt8.toNat_toUInt16, UInt16.toNat_toUInt8, UInt16.toNat_toUInt8, UInt16.toNat_shiftRight]
  show (group.toNat >>> 8 % 2 ^ 8) <<< 8 % 2 ^ 16 ||| group.toNat % 2 ^ 8 = group.toNat
  rw [high, shifted, ← Nat.shiftLeft_add_eq_or_of_lt (Nat.mod_lt _ (by decide)), Nat.shiftLeft_eq]
  omega

/-- The two bytes of the `i`-th group, where `groupsOf` looks for them. -/
theorem pairs_getD (groups : List UInt16) : ∀ i, ∀ inside : i < groups.length,
    (groups.map fun group : UInt16 => [(group >>> 8).toUInt8, group.toUInt8]).flatten.getD
        (i * 2) 0 = (groups.get ⟨i, inside⟩ >>> 8).toUInt8 ∧
      (groups.map fun group : UInt16 => [(group >>> 8).toUInt8, group.toUInt8]).flatten.getD
        (i * 2 + 1) 0 = (groups.get ⟨i, inside⟩).toUInt8 := by
  induction groups with
  | nil => exact fun _ inside => absurd inside (Nat.not_lt_zero _)
  | cons group rest ih =>
    intro i inside
    cases i with
    | zero => exact ⟨rfl, rfl⟩
    | succ i =>
      rw [show (i + 1) * 2 = i * 2 + 2 by omega]
      exact ih i (Nat.lt_of_succ_lt_succ inside)

/-- **The groups are read back from the bytes made of them.** -/
theorem groupsOf_rawOf (groups : List.Vector UInt16 8) : groupsOf (rawOf groups) = groups := by
  refine List.Vector.ext fun i => ?_
  have inside : i.val < groups.toList.length := by
    rw [groups.toList_length]
    exact i.isLt
  obtain ⟨high, low⟩ := pairs_getD groups.toList i.val inside
  rw [groupsOf, List.Vector.get_ofFn, rawOf, high, low, group_of_bytes]
  exact (List.Vector.get_eq_get_toList groups i).symm

theorem ipv4Address_equal {address : Address} (isIPv4 : address.type = AddressIPv4) :
    address.Equal (ipv4Address address.ipv4 address.port) = true :=
  Address.equal_iff.mpr ⟨isIPv4, rfl, .inl ⟨isIPv4, rfl⟩⟩

theorem ipv6Address_equal {address : Address} (isIPv6 : address.type = AddressIPv6) :
    address.Equal (ipv6Address (rawOf address.ipv6) address.port) = true :=
  Address.equal_iff.mpr ⟨isIPv6, rfl, .inr ⟨isIPv6, (groupsOf_rawOf address.ipv6).symm⟩⟩

theorem dotted_eq (ipv4 : FixedBytes 4) : dotted ipv4 = joined dot (ipv4.bytes.map UInt8.toNat) := by
  rw [dotted, joined, List.map_map]
  rfl

/-- A byte that is neither a digit nor a dot is not in a dotted decimal. -/
theorem dotted_not_mem (ipv4 : FixedBytes 4) {byte : UInt8}
    (other : ¬ (IsDigit byte ∨ byte = dot)) : byte ∉ dotted ipv4 := by
  intro member
  rw [dotted_eq] at member
  exact other (mem_joined member)

theorem dotted_length (ipv4 : FixedBytes 4) : (dotted ipv4).length ≤ 16 := by
  have few : ∀ n ∈ ipv4.bytes.map UInt8.toNat, (text n).length ≤ 3 := by
    intro n member
    obtain ⟨part, -, rfl⟩ := List.mem_map.mp member
    have small := part.toNat_lt
    exact text_length_le 2 _ (by omega)
  have length := joined_length_le dot few
  rwa [← dotted_eq, List.length_map, ipv4.length_eq] at length

/-- A text starts with a bracket only if there is one in it. -/
theorem head?_ne {s : Bytes} {byte : UInt8} (absent : byte ∉ s) : s.head? ≠ some byte :=
  fun head => absent (List.mem_of_head? head)

section Text

variable (netip : NetipText) {address : Address}

/-- "a:b:...:h" -/
theorem parseAddress_ipv6 (raw : FixedBytes 16) :
    parseAddress netip.toNetip (netip.addrString raw) = .ok (ipv6Address raw 0) := by
  have short := netip.addrString_short raw
  refine parseAddress_ok_iff.mpr ⟨netip.addrString raw, 0, ?_, .inl ⟨raw, netip.parse_addrString raw, rfl⟩⟩
  rw [List.take_of_length_le (by omega)]
  exact .plain (head?_ne (netip.addrString_brackets raw).1)

theorem rest_ipv6_port (raw : FixedBytes 16) (port : UInt16) :
    Rest ((leftBracket :: netip.addrString raw ++ rightBracket :: colon :: text port.toNat).take 255)
      (netip.addrString raw) port := by
  have short := netip.addrString_short raw
  have few := text_port_length port
  rw [List.take_of_length_le (by simp only [List.length_append, List.length_cons]; omega)]
  have isRest := Rest.port (netip.addrString_ne_nil raw) few (isPort_text port)
  rwa [trimBracket_of_not_mem (netip.addrString_brackets raw).2] at isRest

/-- "[a:b:...:h]:port" -/
theorem parseAddress_ipv6_port (raw : FixedBytes 16) (port : UInt16) :
    parseAddress netip.toNetip
        (leftBracket :: netip.addrString raw ++ rightBracket :: colon :: text port.toNat) =
      .ok (ipv6Address raw port) :=
  parseAddress_ok_iff.mpr ⟨netip.addrString raw, port, rest_ipv6_port netip raw port,
    .inl ⟨raw, netip.parse_addrString raw, rfl⟩⟩

/-- "a.b.c.d" -/
theorem parseAddress_ipv4 (ipv4 : FixedBytes 4) :
    parseAddress netip.toNetip (dotted ipv4) = .ok (ipv4Address ipv4 0) := by
  have short := dotted_length ipv4
  refine parseAddress_ok_iff.mpr ⟨dotted ipv4, 0, ?_, .inr ⟨ipv4, 0,
    .literal (netip.parse_dotted ipv4) fun front p isText => ?_, rfl⟩⟩
  · rw [List.take_of_length_le (by omega)]
    exact .plain (head?_ne (dotted_not_mem ipv4 (by decide)))
  · have noColon : colon ∉ dotted ipv4 := dotted_not_mem ipv4 (by decide)
    rw [isText] at noColon
    exact absurd (List.mem_append_right _ List.mem_cons_self) noColon

/-- "a.b.c.d:port" -/
theorem parseAddress_ipv4_port (ipv4 : FixedBytes 4) (port : UInt16) :
    parseAddress netip.toNetip (dotted ipv4 ++ colon :: text port.toNat) =
      .ok (ipv4Address ipv4 port) := by
  have short := dotted_length ipv4
  have few := text_port_length port
  have isPort := isPort_text port
  refine parseAddress_ok_iff.mpr ⟨dotted ipv4 ++ colon :: text port.toNat, 0, ?_, .inr ⟨ipv4, port,
    .port (netip.parse_dotted ipv4) few isPort fun raw six => ?_, rfl⟩⟩
  · rw [List.take_of_length_le (by simp only [List.length_append, List.length_cons]; omega)]
    refine .plain (head?_ne ?_)
    rw [List.mem_append, List.mem_cons, not_or, not_or]
    exact ⟨dotted_not_mem ipv4 (by decide), by decide, isPort.not_mem (by decide)⟩
  · rw [netip.parse_dotted_port ipv4 port] at six
    cases six

/-- **Address text round trip.** The text of an IPv4 or IPv6 address is parsed, and as an address
`Equal` to it. -/
theorem parseAddress_string (address : Address)
    (family : address.type = AddressIPv4 ∨ address.type = AddressIPv6) :
    ∃ parsed, parseAddress netip.toNetip (address.string netip) = .ok parsed ∧
      address.Equal parsed = true := by
  rcases family with isIPv4 | isIPv6
  · refine ⟨_, ?_, ipv4Address_equal isIPv4⟩
    rw [Address.string, if_neg (by rw [isIPv4]; decide), if_pos isIPv4]
    split_ifs with port
    · exact parseAddress_ipv4_port netip address.ipv4 address.port
    · rw [not_not.mp port]
      exact parseAddress_ipv4 netip address.ipv4
  · refine ⟨_, ?_, ipv6Address_equal isIPv6⟩
    rw [Address.string, if_pos isIPv6]
    split_ifs with port
    · rw [port]
      exact parseAddress_ipv6 netip (rawOf address.ipv6)
    · exact parseAddress_ipv6_port netip (rawOf address.ipv6) address.port

end Text

/-! ### A stand-in for `net/netip` -/

section Sample

/-- The groups of an IPv6 address in decimal. -/
def decimalGroups (raw : FixedBytes 16) : Bytes :=
  joined colon ((groupsOf raw).toList.map UInt16.toNat)

/-- The two bytes of a group are taken apart again. -/
theorem bytes_of_group (high low : UInt8) :
    ((high.toUInt16 <<< 8 ||| low.toUInt16) >>> 8).toUInt8 = high ∧
      (high.toUInt16 <<< 8 ||| low.toUInt16).toUInt8 = low := by
  have small := high.toNat_lt
  have small' := low.toNat_lt
  have group : (high.toUInt16 <<< 8 ||| low.toUInt16).toNat = high.toNat * 256 + low.toNat := by
    have shifted : high.toNat <<< 8 % 2 ^ 16 = high.toNat <<< 8 := by
      rw [Nat.shiftLeft_eq]
      omega
    rw [UInt16.toNat_or, UInt16.toNat_shiftLeft, UInt8.toNat_toUInt16, UInt8.toNat_toUInt16]
    show high.toNat <<< 8 % 2 ^ 16 ||| low.toNat = _
    rw [shifted, ← Nat.shiftLeft_add_eq_or_of_lt small', Nat.shiftLeft_eq]
  constructor
  · rw [← UInt8.toNat_inj, UInt16.toNat_toUInt8, UInt16.toNat_shiftRight, group]
    show (high.toNat * 256 + low.toNat) >>> 8 % 2 ^ 8 = high.toNat
    rw [Nat.shiftRight_eq_div_pow]
    omega
  · rw [← UInt8.toNat_inj, UInt16.toNat_toUInt8, group]
    omega

theorem rawOf_groupsOf (raw : FixedBytes 16) : rawOf (groupsOf raw) = raw := by
  have groups : ∀ i, ∀ inside : i < (groupsOf raw).toList.length,
      (groupsOf raw).toList.get ⟨i, inside⟩ = (raw.bytes.getD (i * 2) 0).toUInt16 <<< 8 |||
        (raw.bytes.getD (i * 2 + 1) 0).toUInt16 := by
    intro i inside
    have small : i < 8 := by rwa [(groupsOf raw).toList_length] at inside
    have found : (groupsOf raw).get ⟨i, small⟩ = (raw.bytes.getD (i * 2) 0).toUInt16 <<< 8 |||
        (raw.bytes.getD (i * 2 + 1) 0).toUInt16 := by
      rw [groupsOf, List.Vector.get_ofFn]
    exact (List.Vector.get_eq_get_toList _ _).symm.trans found
  refine FixedBytes.ext (List.ext_getElem ?_ fun k inside inside' => ?_)
  · rw [(rawOf _).length_eq, raw.length_eq]
  · have sixteen : k < 16 := by rwa [raw.length_eq] at inside'
    have half : k / 2 < (groupsOf raw).toList.length := by
      rw [(groupsOf raw).toList_length]
      omega
    obtain ⟨high, low⟩ := pairs_getD (groupsOf raw).toList (k / 2) half
    rw [groups] at high low
    rw [← List.getD_eq_getElem (rawOf (groupsOf raw)).bytes 0 inside,
      ← List.getD_eq_getElem raw.bytes 0 inside']
    rcases Nat.mod_two_eq_zero_or_one k with even | odd
    · rw [(bytes_of_group _ _).1, show k / 2 * 2 = k by omega] at high
      exact high
    · rw [(bytes_of_group _ _).2, show k / 2 * 2 + 1 = k by omega] at low
      exact low

/-- The addresses read off the numbers of a text. -/
def rawFrom (s : Bytes) : FixedBytes 16 :=
  rawOf (.ofFn fun i => UInt16.ofNat ((numbersOf colon s).getD i 0))

def ipv4From (s : Bytes) : FixedBytes 4 := .copyFrom 4 ((numbersOf dot s).map UInt8.ofNat)

theorem groups_ne_nil (raw : FixedBytes 16) : (groupsOf raw).toList.map UInt16.toNat ≠ [] := by
  intro nothing
  have length := congrArg List.length nothing
  rw [List.length_map, (groupsOf raw).toList_length] at length
  cases length

theorem rawFrom_decimalGroups (raw : FixedBytes 16) : rawFrom (decimalGroups raw) = raw := by
  have numbers : numbersOf colon (decimalGroups raw) = (groupsOf raw).toList.map UInt16.toNat :=
    numbersOf_joined (by decide) (groups_ne_nil raw)
  rw [rawFrom, numbers]
  refine Eq.trans (congrArg rawOf (List.Vector.ext fun i => ?_)) (rawOf_groupsOf raw)
  have inside : i.val < ((groupsOf raw).toList.map UInt16.toNat).length := by
    rw [List.length_map, (groupsOf raw).toList_length]
    exact i.isLt
  rw [List.Vector.get_ofFn, List.getD_eq_getElem _ _ inside, List.getElem_map, UInt16.ofNat_toNat,
    List.Vector.get_eq_get_toList]
  rfl

theorem ipv4From_dotted (ipv4 : FixedBytes 4) : ipv4From (dotted ipv4) = ipv4 := by
  have numbers : numbersOf dot (dotted ipv4) = ipv4.bytes.map UInt8.toNat := by
    rw [dotted_eq]
    refine numbersOf_joined (by decide) fun nothing => ?_
    have length := congrArg List.length nothing
    rw [List.length_map, ipv4.length_eq] at length
    cases length
  have back : (ipv4.bytes.map UInt8.toNat).map UInt8.ofNat = ipv4.bytes := by
    rw [List.map_map]
    exact List.map_id'' (fun byte => UInt8.ofNat_toNat) _
  rw [ipv4From, numbers, back]
  exact FixedBytes.ext (FixedBytes.copyFrom_bytes ipv4.length_eq)

/-- A text is an address if it is how that address prints. -/
def parsePrinted (s : Bytes) : Option NetipAddr :=
  if decimalGroups (rawFrom s) = s then some (.ip6 (rawFrom s))
  else if dotted (ipv4From s) = s then some (.ip4 (ipv4From s))
  else none

/-- Colons only stand between the groups of an IPv6 address, dots in dotted decimals. -/
theorem decimalGroups_not_mem (raw : FixedBytes 16) {byte : UInt8}
    (other : ¬ (IsDigit byte ∨ byte = colon)) : byte ∉ decimalGroups raw :=
  fun member => other (mem_joined member)

theorem dot_mem_dotted (ipv4 : FixedBytes 4) : dot ∈ dotted ipv4 := by
  obtain ⟨bytes, four⟩ := ipv4
  obtain ⟨a, b, c, d, rfl⟩ := List.length_eq_four.mp four
  rw [dotted_eq]
  exact List.mem_append_right _ List.mem_cons_self

theorem decimalGroups_length (raw : FixedBytes 16) : (decimalGroups raw).length ≤ 48 := by
  have few : ∀ n ∈ (groupsOf raw).toList.map UInt16.toNat, (text n).length ≤ 5 := by
    intro n member
    obtain ⟨group, -, rfl⟩ := List.mem_map.mp member
    exact text_port_length group
  have length := joined_length_le colon few
  rwa [List.length_map, (groupsOf raw).toList_length] at length

/-- What has a dot is not printed for an IPv6 address. -/
theorem parsePrinted_of_dot {s : Bytes} (isDot : dot ∈ s) :
    parsePrinted s = if dotted (ipv4From s) = s then some (.ip4 (ipv4From s)) else none := by
  rw [parsePrinted, if_neg fun printed => ?_]
  exact decimalGroups_not_mem (rawFrom s) (by decide) (printed.symm ▸ isDot)

/-- **A `net/netip` that prints the groups of an IPv6 address in decimal.** -/
def sampleNetip : NetipText where
  parseAddr := parsePrinted
  addrString := decimalGroups
  parse_addrString raw := by
    rw [parsePrinted, rawFrom_decimalGroups, if_pos rfl]
  parse_dotted ipv4 := by
    rw [parsePrinted_of_dot (dot_mem_dotted ipv4), ipv4From_dotted, if_pos rfl]
  parse_dotted_port ipv4 port := by
    rw [parsePrinted_of_dot (List.mem_append_left _ (dot_mem_dotted ipv4)), if_neg fun printed => ?_]
    have noColon : colon ∉ dotted (ipv4From (dotted ipv4 ++ colon :: text port.toNat)) :=
      dotted_not_mem _ (by decide)
    rw [printed] at noColon
    exact noColon (List.mem_append_right _ List.mem_cons_self)
  addrString_brackets raw :=
    ⟨decimalGroups_not_mem raw (by decide), decimalGroups_not_mem raw (by decide)⟩
  addrString_short raw := by
    have length := decimalGroups_length raw
    omega
  addrString_ne_nil raw := joined_ne_nil colon (groups_ne_nil raw)

/-- "[1:2:3:4:5:6:7:8]:40000" -/
def groupsAddress : Address :=
  { Address.none with
    type := AddressIPv6
    ipv6 := ⟨[1, 2, 3, 4, 5, 6, 7, 8], rfl⟩
    port := 40000 }

theorem parseAddress_string_groups :
    ∃ parsed, parseAddress sampleNetip.toNetip (groupsAddress.string sampleNetip) = .ok parsed ∧
      groupsAddress.Equal parsed = true :=
  parseAddress_string sampleNetip groupsAddress (.inr rfl)

end Sample

/-! ### The documented forms -/

/-- **The forms of an address string**, each with the address it stands for. A literal is what
`net/netip` accepts. -/
inductive Documented (netip : Netip) : Bytes → Address → Prop
  | ipv4 (literal : Bytes) (raw : FixedBytes 4)
      (accepted : netip.parseAddr literal = some (.ip4 raw)) :
      Documented netip literal (ipv4Address raw 0)
  | ipv4Port (literal p : Bytes) (raw : FixedBytes 4) (port : UInt16)
      (accepted : netip.parseAddr literal = some (.ip4 raw)) (isPort : IsPort p port) :
      Documented netip (literal ++ colon :: p) (ipv4Address raw port)
  | ipv6 (literal : Bytes) (raw : FixedBytes 16)
      (accepted : netip.parseAddr literal = some (.ip6 raw)) :
      Documented netip literal (ipv6Address raw 0)
  | brackets (literal : Bytes) (raw : FixedBytes 16)
      (accepted : netip.parseAddr literal = some (.ip6 raw)) :
      Documented netip (leftBracket :: literal ++ [rightBracket]) (ipv6Address raw 0)
  | bracketsPort (literal p : Bytes) (raw : FixedBytes 16) (port : UInt16)
      (accepted : netip.parseAddr literal = some (.ip6 raw)) (isPort : IsPort p port) :
      Documented netip (leftBracket :: literal ++ rightBracket :: colon :: p)
        (ipv6Address raw port)

/-- **What is known of the literals of `net/netip`**: none starts with a bracket, and those of IPv4
addresses are short. -/
structure Netip.Literals (netip : Netip) : Prop where
  noBracket : ∀ s address, netip.parseAddr s = some address → s.head? ≠ some leftBracket
  short : ∀ s raw, netip.parseAddr s = some (.ip4 raw) → s.length ≤ 16

/-- **The brackets are closed** around a literal of the address, with the port behind them if it is not
left out. -/
def ClosedAround (netip : Netip) (raw : FixedBytes 16) (port : UInt16) (s : Bytes) : Prop :=
  ∃ literal, netip.parseAddr literal = some (.ip6 raw) ∧
    (s = leftBracket :: literal ++ [rightBracket] ∧ port = 0 ∨
      ∃ p, s = leftBracket :: literal ++ rightBracket :: colon :: p ∧ IsPort p port)

/-- **A string is what is read from its first 255 bytes**: they are no IPv4 address in brackets, nor one
that is cut off; an IPv6 address in brackets is what the brackets of the string are closed around; and
without brackets it is that of the whole string. -/
structure Regular (netip : Netip) (s : Bytes) : Prop where
  noIPv4 : s.head? = some leftBracket ∨ 255 < s.length → ∀ rest port, Rest (s.take 255) rest port →
    ∀ raw port', ¬ ReadsIPv4 netip port rest raw port'
  closed : s.head? = some leftBracket → ∀ rest port, Rest (s.take 255) rest port →
    ∀ raw, netip.parseAddr rest = some (.ip6 raw) → ClosedAround netip raw port s
  whole : s.head? ≠ some leftBracket → ∀ raw, netip.parseAddr (s.take 255) = some (.ip6 raw) →
    netip.parseAddr s = some (.ip6 raw)

section Exact

variable {netip : Netip} {s : Bytes} {address : Address}

theorem ipv6Address_inj {raw raw' : FixedBytes 16} {port port' : UInt16}
    (same : ipv6Address raw port = ipv6Address raw' port') : raw = raw' ∧ port = port' := by
  have groups : groupsOf raw = groupsOf raw' := congrArg Address.ipv6 same
  rw [← rawOf_groupsOf raw, groups, rawOf_groupsOf]
  exact ⟨rfl, congrArg Address.port same⟩

/-- The forms of an IPv6 address. -/
theorem Documented.ipv6_cases {raw : FixedBytes 16} {port : UInt16} (form : Documented netip s address)
    (isAddress : address = ipv6Address raw port) :
    netip.parseAddr s = some (.ip6 raw) ∨ ClosedAround netip raw port s := by
  cases form with
  | ipv4 | ipv4Port =>
    exact absurd (congrArg Address.type isAddress) (show ¬ AddressIPv4 = AddressIPv6 by decide)
  | ipv6 literal raw' accepted =>
    obtain ⟨rfl, -⟩ := ipv6Address_inj isAddress
    exact .inl accepted
  | brackets literal raw' accepted =>
    obtain ⟨rfl, rfl⟩ := ipv6Address_inj isAddress
    exact .inr ⟨literal, accepted, .inl ⟨rfl, rfl⟩⟩
  | bracketsPort literal p raw' port' accepted isPort =>
    obtain ⟨rfl, rfl⟩ := ipv6Address_inj isAddress
    exact .inr ⟨literal, accepted, .inr ⟨p, rfl, isPort⟩⟩

/-- No form of an IPv4 address starts with a bracket. -/
theorem Documented.ipv4_head (form : Documented netip s address) (literals : netip.Literals)
    (isIPv4 : address.type = AddressIPv4) : s.head? ≠ some leftBracket := by
  cases form with
  | ipv4 literal raw accepted => exact literals.noBracket _ _ accepted
  | ipv4Port literal p raw port accepted =>
    cases literal with
    | nil => exact show some colon ≠ some leftBracket by decide
    | cons byte rest => exact literals.noBracket (byte :: rest) _ accepted
  | ipv6 | brackets | bracketsPort =>
    exact absurd isIPv4 (show ¬ AddressIPv6 = AddressIPv4 by decide)

theorem ReadsIPv4.short {rest : Bytes} {raw : FixedBytes 4} {port port' : UInt16}
    (reads : ReadsIPv4 netip port rest raw port') (literals : netip.Literals) : rest.length < 255 := by
  cases reads with
  | literal accepted =>
    have := literals.short _ _ accepted
    omega
  | port accepted few =>
    have := literals.short _ _ accepted
    rw [List.length_append, List.length_cons]
    omega

theorem Rest.of_plain {rest : Bytes} {port : UInt16} (isRest : Rest s rest port)
    (noBracket : s.head? ≠ some leftBracket) : rest = s ∧ port = 0 := by
  cases isRest with
  | plain => exact ⟨rfl, rfl⟩
  | port => exact absurd rfl noBracket
  | bracket => exact absurd rfl noBracket

theorem head?_cut (s : Bytes) : (s.take 255).head? = s.head? := by
  rw [List.head?_take, if_neg (by decide)]

/-- A regular string is parsed as documented. -/
theorem Regular.documented (regular : Regular netip s) (parsed : parseAddress netip s = .ok address) :
    Documented netip s address := by
  obtain ⟨rest, port, isRest, reads⟩ := parseAddress_ok_iff.mp parsed
  by_cases bracket : s.head? = some leftBracket
  · rcases reads with ⟨raw, accepted, rfl⟩ | ⟨raw, port', reads, -⟩
    · obtain ⟨literal, accepted, ⟨rfl, rfl⟩ | ⟨p, rfl, isPort⟩⟩ := regular.closed bracket rest port
        isRest raw accepted
      · exact .brackets literal raw accepted
      · exact .bracketsPort literal p raw port accepted isPort
    · exact absurd reads (regular.noIPv4 (.inl bracket) rest port isRest raw port')
  · obtain ⟨rfl, rfl⟩ := isRest.of_plain (by rwa [head?_cut])
    rcases reads with ⟨raw, accepted, rfl⟩ | ⟨raw, port', reads, rfl⟩
    · exact .ipv6 s raw (regular.whole bracket raw accepted)
    · by_cases long : 255 < s.length
      · exact absurd reads (regular.noIPv4 (.inr long) _ _ isRest raw port')
      · rw [List.take_of_length_le (not_lt.mp long)] at reads
        cases reads with
        | literal accepted => exact .ipv4 s raw accepted
        | port accepted _ isPort => exact .ipv4Port _ _ raw port' accepted isPort

end Exact

/-- **`ParseAddress` accepts only its documented forms, with the address of the form, just if the string
is regular.** -/
theorem parseAddress_documented (netip : Netip) (literals : netip.Literals) (s : Bytes) :
    (∀ address, parseAddress netip s = .ok address → Documented netip s address) ↔
      Regular netip s := by
  refine ⟨fun documented => ⟨fun irregular rest port isRest raw port' reads => ?_,
    fun bracket rest port isRest raw accepted => ?_, fun noBracket raw accepted => ?_⟩,
    fun regular address parsed => regular.documented parsed⟩
  · have form := documented _ (parseAddress_ok_iff.mpr
      ⟨rest, port, isRest, .inr ⟨raw, port', reads, rfl⟩⟩)
    have noBracket := form.ipv4_head literals rfl
    rcases irregular with bracket | long
    · exact noBracket bracket
    · obtain ⟨rfl, -⟩ := isRest.of_plain (by rwa [head?_cut])
      have short := reads.short literals
      rw [List.length_take_of_le long.le] at short
      exact lt_irrefl _ short
  · have form := documented _ (parseAddress_ok_iff.mpr ⟨rest, port, isRest, .inl ⟨raw, accepted, rfl⟩⟩)
    rcases form.ipv6_cases rfl with literal | closed
    · exact absurd bracket (literals.noBracket _ _ literal)
    · exact closed
  · have form := documented _ (parseAddress_ok_iff.mpr
      ⟨_, 0, .plain (by rwa [head?_cut]), .inl ⟨raw, accepted, rfl⟩⟩)
    rcases form.ipv6_cases rfl with literal | ⟨literal, -, ⟨rfl, -⟩ | ⟨p, rfl, -⟩⟩
    · exact literal
    · exact absurd rfl noBracket
    · exact absurd rfl noBracket

/-- What the stand-in takes for an IPv4 address is a dotted decimal. -/
theorem parsePrinted_ip4 {s : Bytes} {raw : FixedBytes 4}
    (accepted : parsePrinted s = some (.ip4 raw)) : ∃ ipv4, s = dotted ipv4 := by
  unfold parsePrinted at accepted
  split_ifs at accepted with six four
  · cases accepted
  · exact ⟨_, four.symm⟩

theorem dot_mem_of_reads {rest : Bytes} {raw : FixedBytes 4} {port port' : UInt16}
    (reads : ReadsIPv4 sampleNetip.toNetip port rest raw port') : dot ∈ rest := by
  cases reads with
  | literal accepted =>
    obtain ⟨ipv4, rfl⟩ := parsePrinted_ip4 accepted
    exact dot_mem_dotted ipv4
  | port accepted =>
    obtain ⟨ipv4, rfl⟩ := parsePrinted_ip4 accepted
    exact List.mem_append_left _ (dot_mem_dotted ipv4)

theorem sampleNetip_literals : sampleNetip.toNetip.Literals where
  noBracket s address accepted := by
    have accepted : parsePrinted s = some address := accepted
    unfold parsePrinted at accepted
    split_ifs at accepted with six four
    · rw [← six]
      exact head?_ne (decimalGroups_not_mem _ (by decide))
    · rw [← four]
      exact head?_ne (dotted_not_mem _ (by decide))
  short s raw accepted := by
    obtain ⟨ipv4, rfl⟩ := parsePrinted_ip4 accepted
    exact dotted_length ipv4

/-- The text of an IPv6 address in brackets, with its port. -/
theorem parseAddress_documented_groups :
    Documented sampleNetip.toNetip (groupsAddress.string sampleNetip)
      (ipv6Address (rawOf groupsAddress.ipv6) groupsAddress.port) := by
  have isRest := rest_ipv6_port sampleNetip (rawOf groupsAddress.ipv6) groupsAddress.port
  refine (parseAddress_documented sampleNetip.toNetip sampleNetip_literals _).mpr
    ⟨fun _ rest port isRest' raw port' reads => ?_, fun _ rest port isRest' raw accepted => ?_,
      fun noBracket => absurd rfl noBracket⟩ _
    (parseAddress_ipv6_port sampleNetip (rawOf groupsAddress.ipv6) groupsAddress.port)
  · obtain ⟨rfl, rfl⟩ := isRest'.unique isRest
    exact decimalGroups_not_mem _ (by decide) (dot_mem_of_reads reads)
  · obtain ⟨rfl, rfl⟩ := isRest'.unique isRest
    exact ⟨_, accepted, .inr ⟨_, rfl, isPort_text _⟩⟩

/-- Without a colon and a closing bracket a documented form is a literal. -/
theorem Documented.literal {netip : Netip} {s : Bytes} {address : Address}
    (form : Documented netip s address) (noColon : colon ∉ s) (noBracket : rightBracket ∉ s) :
    netip.parseAddr s ≠ none := by
  intro rejected
  cases form with
  | ipv4 literal raw accepted =>
    rw [rejected] at accepted
    cases accepted
  | ipv6 literal raw accepted =>
    rw [rejected] at accepted
    cases accepted
  | ipv4Port => exact noColon (List.mem_append_right _ List.mem_cons_self)
  | brackets => exact noBracket (List.mem_append_right _ List.mem_cons_self)
  | bracketsPort => exact noBracket (List.mem_append_right _ List.mem_cons_self)

/-- **"[127.0.0.1"**, an unbalanced bracket, is parsed as the IPv4 address behind it. -/
theorem unclosed_bracket_parsed :
    parseAddress sampleNetip.toNetip [91, 49, 50, 55, 46, 48, 46, 48, 46, 49] =
        .ok (ipv4Address ⟨[127, 0, 0, 1], rfl⟩ 0) ∧
      ¬ Documented sampleNetip.toNetip [91, 49, 50, 55, 46, 48, 46, 48, 46, 49]
        (ipv4Address ⟨[127, 0, 0, 1], rfl⟩ 0) :=
  ⟨by decide +kernel, fun form => form.literal (by decide) (by decide) (by decide +kernel)⟩

end Netcode
