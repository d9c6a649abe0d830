import Mathlib.Algebra.GroupWithZero.Nat
import Mathlib.Data.List.Basic

/-!
# Resumable scanners

A tokenizer reads one token off the front of its input, or asks for more input.
A scanner repeats that and keeps the unread rest for the next chunk.  When a
token that was read does not change with the input that follows it, scanning
chunk by chunk is scanning the whole input at once, and scanning the encodings
of a list of values gives the values back.
-/

namespace Foundations

variable {α β γ : Type}

/-- One token and how many symbols it takes; `none` when the input is too short
to tell. -/
structure Tokenizer (α β : Type) where
  token : List α → Option (β × Nat)
  consumes : ∀ {input out count}, token input = some (out, count) →
    0 < count ∧ count ≤ input.length
  /-- What was read does not depend on what follows. -/
  stable : ∀ {input out count} (more : List α),
    token input = some (out, count) → token (input ++ more) = some (out, count)

namespace Tokenizer

variable (tokenizer : Tokenizer α β)

/-- Scan with a bound on the number of tokens. -/
def scanWith : Nat → List α → List β × List α
  | 0, input => ([], input)
  | fuel + 1, input =>
      match tokenizer.token input with
      | none => ([], input)
      | some (out, count) =>
          let (outs, rest) := scanWith fuel (input.drop count)
          (out :: outs, rest)

/-- All tokens of the input, and the rest that waits for more of it. -/
def scan (input : List α) : List β × List α :=
  tokenizer.scanWith input.length input

theorem token_nil : tokenizer.token [] = none := by
  cases found : tokenizer.token [] with
  | none => rfl
  | some pair =>
      obtain ⟨positive, bound⟩ := tokenizer.consumes found
      simp only [List.length_nil] at bound
      omega

/-- Every token takes a symbol, so a bound beyond the length is never used. -/
theorem scanWith_eq_scan {fuel : Nat} {input : List α}
    (enough : input.length ≤ fuel) :
    tokenizer.scanWith fuel input = tokenizer.scan input := by
  suffices agree : ∀ {small large : Nat} {input : List α},
      input.length ≤ small → small ≤ large →
        tokenizer.scanWith large input = tokenizer.scanWith small input from
    agree (Nat.le_refl _) enough
  intro small
  induction small with
  | zero =>
      intro large input short _
      obtain rfl : input = [] := List.length_eq_zero_iff.mp (Nat.le_zero.mp short)
      cases large with
      | zero => rfl
      | succ large => simp [scanWith, tokenizer.token_nil]
  | succ small ih =>
      intro large input short more
      obtain ⟨larger, rfl⟩ : ∃ larger, large = larger + 1 :=
        ⟨large - 1, by omega⟩
      rw [scanWith, scanWith]
      cases found : tokenizer.token input with
      | none => rfl
      | some pair =>
          have taken := tokenizer.consumes found
          have left : (input.drop pair.2).length ≤ small := by
            rw [List.length_drop]
            omega
          simp only
          rw [ih left (by omega : small ≤ larger)]

/-- Without a complete token everything waits. -/
theorem scan_none {input : List α} (incomplete : tokenizer.token input = none) :
    tokenizer.scan input = ([], input) := by
  unfold scan
  cases input with
  | nil => rfl
  | cons symbol input => rw [List.length_cons, scanWith, incomplete]

/-- A complete token is followed by the scan of what comes after it. -/
theorem scan_some {input : List α} {out : β} {count : Nat}
    (found : tokenizer.token input = some (out, count)) :
    tokenizer.scan input =
      (out :: (tokenizer.scan (input.drop count)).1,
        (tokenizer.scan (input.drop count)).2) := by
  obtain ⟨positive, bound⟩ := tokenizer.consumes found
  obtain ⟨fuel, length⟩ : ∃ fuel, input.length = fuel + 1 :=
    ⟨input.length - 1, by omega⟩
  have left : (input.drop count).length ≤ fuel := by
    rw [List.length_drop]
    omega
  rw [scan, length, scanWith, found]
  simp only
  rw [tokenizer.scanWith_eq_scan left]

/-- What waits holds no complete token. -/
theorem token_rest (input : List α) :
    tokenizer.token (tokenizer.scan input).2 = none := by
  induction length : input.length using Nat.strongRecOn generalizing input with
  | ind size ih =>
      subst length
      cases found : tokenizer.token input with
      | none => rwa [tokenizer.scan_none found]
      | some pair =>
          have taken := tokenizer.consumes found
          rw [tokenizer.scan_some found]
          refine ih _ ?_ (input.drop pair.2) rfl
          rw [List.length_drop]
          omega

/-- Where no token is worth more than the symbols it takes, neither are all
tokens of the input. -/
theorem scan_weight {weight : β → Nat}
    (bounded : ∀ {input out count},
      tokenizer.token input = some (out, count) → weight out ≤ count)
    (input : List α) :
    ((tokenizer.scan input).1.map weight).sum ≤ input.length := by
  induction length : input.length using Nat.strongRecOn generalizing input with
  | ind size ih =>
      subst length
      cases found : tokenizer.token input with
      | none => simp [tokenizer.scan_none found]
      | some pair =>
          have taken := tokenizer.consumes found
          have here := bounded found
          have later := ih (input.drop pair.2).length
            (by rw [List.length_drop]; omega) (input.drop pair.2) rfl
          rw [tokenizer.scan_some found, List.map_cons, List.sum_cons]
          rw [List.length_drop] at later
          omega

/-- Scanning two pieces in order is scanning them together: the rest of the
first is put before the second. -/
theorem scan_append (first second : List α) :
    tokenizer.scan (first ++ second) =
      ((tokenizer.scan first).1 ++
          (tokenizer.scan ((tokenizer.scan first).2 ++ second)).1,
        (tokenizer.scan ((tokenizer.scan first).2 ++ second)).2) := by
  induction length : first.length using Nat.strongRecOn generalizing first with
  | ind size ih =>
      subst length
      cases found : tokenizer.token first with
      | none => simp [tokenizer.scan_none found]
      | some pair =>
          obtain ⟨out, count⟩ := pair
          have taken := tokenizer.consumes found
          have shorter : (first.drop count).length < first.length := by
            rw [List.length_drop]
            omega
          have later := ih _ shorter (first.drop count) rfl
          rw [tokenizer.scan_some (tokenizer.stable second found),
            tokenizer.scan_some found, List.drop_append_of_le_length taken.2, later]
          rfl

/-- Feed chunks one after another, starting with a rest from before. -/
def feed : List (List α) → List α → List β × List α
  | [], rest => ([], rest)
  | chunk :: chunks, rest =>
      let (outs, left) := tokenizer.scan (rest ++ chunk)
      let (later, last) := feed chunks left
      (outs ++ later, last)

/-- Feeding chunks is scanning their concatenation. -/
theorem feed_eq_scan (chunks : List (List α)) {rest : List α}
    (incomplete : tokenizer.token rest = none) :
    tokenizer.feed chunks rest = tokenizer.scan (rest ++ chunks.flatten) := by
  induction chunks generalizing rest with
  | nil =>
      rw [List.flatten_nil, List.append_nil, tokenizer.scan_none incomplete]
      rfl
  | cons chunk chunks ih =>
      rw [List.flatten_cons, ← List.append_assoc, tokenizer.scan_append (rest ++ chunk),
        ← ih (tokenizer.token_rest (rest ++ chunk))]
      rfl

/-- A value whose encoding reads back as its token, whatever follows. -/
def Reads (encode : List α) (out : β) : Prop :=
  ∀ rest, tokenizer.token (encode ++ rest) = some (out, encode.length)

/-- Encodings that read back are scanned to their tokens. -/
theorem scan_flatMap {encode : γ → List α} {out : γ → β} {values : List γ}
    (reads : ∀ value ∈ values, tokenizer.Reads (encode value) (out value))
    (rest : List α) :
    tokenizer.scan (values.flatMap encode ++ rest) =
      (values.map out ++ (tokenizer.scan rest).1, (tokenizer.scan rest).2) := by
  induction values with
  | nil => simp
  | cons value values ih =>
      have later := ih fun other member => reads other (List.mem_cons_of_mem _ member)
      have here := reads value List.mem_cons_self (values.flatMap encode ++ rest)
      rw [List.flatMap_cons, List.append_assoc, tokenizer.scan_some here,
        List.drop_left, later]
      rfl

/-- An encoding of which every shorter piece waits. -/
def Waits (encode : List α) : Prop :=
  ∀ part, part <+: encode → part.length < encode.length → tokenizer.token part = none

/-- What has arrived of a list of encodings is scanned to the tokens that are
complete; the rest is a piece of the next encoding. -/
theorem scan_prefix {encode : γ → List α} {out : γ → β} {values : List γ}
    (reads : ∀ value ∈ values, tokenizer.Reads (encode value) (out value))
    (waits : ∀ value ∈ values, tokenizer.Waits (encode value))
    {input : List α} (arrived : input <+: values.flatMap encode) :
    ∃ read left part, values = read ++ left ∧
      input = read.flatMap encode ++ part ∧
      tokenizer.scan input = (read.map out, part) ∧
      part <+: left.flatMap encode ∧
      ∀ value later, left = value :: later → part.length < (encode value).length := by
  induction values generalizing input with
  | nil =>
      obtain rfl : input = [] := List.prefix_nil.mp arrived
      refine ⟨[], [], [], rfl, rfl, ?_, List.prefix_rfl, ?_⟩
      · exact tokenizer.scan_none tokenizer.token_nil
      · intro value later left
        cases left
  | cons value values ih =>
      rw [List.flatMap_cons] at arrived
      rcases Nat.lt_or_ge input.length (encode value).length with short | long
      · have part : input <+: encode value :=
          List.prefix_of_prefix_length_le arrived (List.prefix_append _ _)
            (Nat.le_of_lt short)
        refine ⟨[], value :: values, input, rfl, rfl, ?_, ?_, ?_⟩
        · exact tokenizer.scan_none (waits value List.mem_cons_self input part short)
        · rwa [List.flatMap_cons]
        · intro next later left
          cases left
          exact short
      · obtain ⟨more, rfl⟩ : encode value <+: input :=
          List.prefix_of_prefix_length_le (List.prefix_append _ _) arrived long
        obtain ⟨read, left, part, split, shape, scanned, next, shorter⟩ := ih
          (fun other member => reads other (List.mem_cons_of_mem _ member))
          (fun other member => waits other (List.mem_cons_of_mem _ member))
          ((List.prefix_append_right_inj _).mp arrived)
        refine ⟨value :: read, left, part, ?_, ?_, ?_, next, shorter⟩
        · rw [split, List.cons_append]
        · rw [shape, List.flatMap_cons, List.append_assoc]
        · rw [tokenizer.scan_some (reads value List.mem_cons_self more), List.drop_left,
            scanned]
          rfl

end Tokenizer

end Foundations
