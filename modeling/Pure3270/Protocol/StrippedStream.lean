import Pure3270.Protocol.TelnetEncoding

/-!
# The second scanner

`strip_telnet_iac` reads the Telnet grammar on its own.  It takes an escaped byte for a
command, and the first SE byte for the end of a subnegotiation, even where no IAC stands
before it.
-/

namespace Pure3270

open Foundations

namespace Telnet

/-- One round of the loop of `strip_telnet_iac`: a byte of data, or nothing, and how
far the index moves; `none` where nothing more comes.  The flags for EOR and GA choose
log messages only. -/
def stripToken : List UInt8 → Option (Option UInt8 × Nat)
  | [] => none
  | byte :: rest =>
      if byte ≠ iac then some (some byte, 1)
      else
        match rest with
        | [] => none
        | cmd :: body =>
            if cmd = sb then (body.findIdx? (· = se)).map fun seIndex => (none, seIndex + 3)
            else if isNegotiation cmd then
              -- beyond the end the loop is over
              match body with
              | [] => none
              | _ :: _ => some (none, 3)
            else some (none, 2)

/-- What one round takes, a constructor for each branch. -/
inductive Stripped : List UInt8 → Option UInt8 → List UInt8 → Prop where
  | data {byte : UInt8} (plain : byte ≠ iac) (rest : List UInt8) :
      Stripped (byte :: rest) (some byte) rest
  | subnegotiation {body : List UInt8} (inside : se ∉ body) (rest : List UInt8) :
      Stripped (iac :: sb :: (body ++ se :: rest)) none rest
  | negotiation {cmd : UInt8} (verb : isNegotiation cmd = true) (option : UInt8)
      (rest : List UInt8) : Stripped (iac :: cmd :: option :: rest) none rest
  | command {cmd : UInt8} (noSb : cmd ≠ sb) (noVerb : isNegotiation cmd = false)
      (rest : List UInt8) : Stripped (iac :: cmd :: rest) none rest

theorem findIdx?_se {body : List UInt8} (inside : se ∉ body) (rest : List UInt8) :
    (body ++ se :: rest).findIdx? (· = se) = some body.length := by
  induction body with
  | nil => rfl
  | cons byte body ih =>
      have here : byte ≠ se := fun same => inside (same ▸ List.mem_cons_self)
      have later := ih fun member => inside (List.mem_cons_of_mem _ member)
      rw [List.cons_append, List.findIdx?_cons, if_neg (by simpa using here), later]
      rfl

theorem Stripped.token_eq {input rest : List UInt8} {out : Option UInt8}
    (stripped : Stripped input out rest) :
    ∃ count, stripToken input = some (out, count) ∧ input.drop count = rest := by
  cases stripped with
  | data plain => exact ⟨1, if_pos plain, rfl⟩
  | @subnegotiation body inside =>
      refine ⟨body.length + 3, ?_, ?_⟩
      · have found := findIdx?_se inside rest
        simp [stripToken, found]
      · show (body ++ se :: rest).drop (body.length + 1) = rest
        rw [← List.drop_drop, List.drop_left]
        rfl
  | @negotiation cmd verb option =>
      refine ⟨3, ?_, rfl⟩
      have noSb : cmd ≠ sb := by
        rintro rfl
        cases verb
      simp [stripToken, noSb, verb]
  | command noSb noVerb => exact ⟨2, by simp [stripToken, noSb, noVerb], rfl⟩

/-- Where the first SE byte stands. -/
theorem findIdx?_se_split {bytes : List UInt8} {seIndex : Nat}
    (found : bytes.findIdx? (· = se) = some seIndex) :
    ∃ body rest, bytes = body ++ se :: rest ∧ se ∉ body ∧ body.length = seIndex := by
  induction bytes generalizing seIndex with
  | nil => cases found
  | cons byte bytes ih =>
      rw [List.findIdx?_cons] at found
      split at found
      · rename_i ends
        cases found
        exact ⟨[], bytes, by rw [of_decide_eq_true ends]; rfl, List.not_mem_nil, rfl⟩
      · rename_i goesOn
        obtain ⟨later, foundLater, rfl⟩ := Option.map_eq_some_iff.mp found
        obtain ⟨body, rest, rfl, inside, rfl⟩ := ih foundLater
        refine ⟨byte :: body, rest, rfl, fun member => ?_, rfl⟩
        rcases List.mem_cons.mp member with same | member
        · exact goesOn (by simpa using same.symm)
        · exact inside member

theorem stripped_of_token {input : List UInt8} {out : Option UInt8} {count : Nat}
    (found : stripToken input = some (out, count)) :
    Stripped input out (input.drop count) ∧ 0 < count ∧ count ≤ input.length := by
  unfold stripToken at found
  split at found
  · cases found
  · rename_i byte rest
    split at found
    · rename_i plain
      cases found
      exact ⟨.data plain rest, by simp⟩
    · rename_i escape
      obtain rfl : byte = iac := not_not.mp escape
      split at found
      · cases found
      · rename_i cmd body
        split at found
        · rename_i subnegotiation
          obtain ⟨seIndex, foundSe, same⟩ := Option.map_eq_some_iff.mp found
          cases same
          obtain ⟨inside, rest, rfl, outside, rfl⟩ := findIdx?_se_split foundSe
          have left : (iac :: cmd :: (inside ++ se :: rest)).drop (inside.length + 3) =
              rest := by
            show (inside ++ se :: rest).drop (inside.length + 1) = rest
            rw [← List.drop_drop, List.drop_left]
            rfl
          rw [left, subnegotiation]
          exact ⟨.subnegotiation outside rest, by simp⟩
        · rename_i noSb
          split at found
          · rename_i verb
            split at found
            · cases found
            · cases found
              exact ⟨.negotiation verb _ _, by simp⟩
          · rename_i noVerb
            cases found
            exact ⟨.command noSb (by simpa using noVerb) body, by simp⟩

theorem Stripped.append {input rest : List UInt8} {out : Option UInt8}
    (stripped : Stripped input out rest) (more : List UInt8) :
    Stripped (input ++ more) out (rest ++ more) := by
  cases stripped with
  | data plain rest => exact .data plain (rest ++ more)
  | @subnegotiation body inside rest =>
      have shape : iac :: sb :: (body ++ se :: rest) ++ more =
          iac :: sb :: (body ++ se :: (rest ++ more)) := by simp
      rw [shape]
      exact .subnegotiation inside (rest ++ more)
  | negotiation verb option rest => exact .negotiation verb option (rest ++ more)
  | command noSb noVerb rest => exact .command noSb noVerb (rest ++ more)

/-- The rounds of the loop as a resumable scanner. -/
def stripper : Tokenizer UInt8 (Option UInt8) where
  token := stripToken
  consumes := fun found => (stripped_of_token found).2
  stable := by
    intro input out count more found
    obtain ⟨stripped, positive, bound⟩ := stripped_of_token found
    obtain ⟨whole, foundWhole, left⟩ := (stripped.append more).token_eq
    have lengths := congrArg List.length left
    have wholeBound := (stripped_of_token foundWhole).2.2
    simp only [List.length_drop, List.length_append] at lengths wholeBound
    obtain rfl : whole = count := by omega
    exact foundWhole

end Telnet

/-- `strip_telnet_iac`. -/
def stripTelnetIac (data : List UInt8) : List UInt8 :=
  (Telnet.stripper.scan data).1.filterMap id

namespace Telnet

/-- After one round the loop goes on with what is left. -/
theorem Stripped.scan_eq {input rest : List UInt8} {out : Option UInt8}
    (stripped : Stripped input out rest) :
    stripper.scan input = (out :: (stripper.scan rest).1, (stripper.scan rest).2) := by
  obtain ⟨count, found, left⟩ := stripped.token_eq
  rw [stripper.scan_some found, left]

theorem Stripped.strip_eq {input rest : List UInt8} {out : Option UInt8}
    (stripped : Stripped input out rest) :
    stripTelnetIac input = out.toList ++ stripTelnetIac rest := by
  unfold stripTelnetIac
  rw [stripped.scan_eq]
  cases out <;> rfl

theorem stripTelnetIac_nil : stripTelnetIac [] = [] := by
  unfold stripTelnetIac
  rw [stripper.scan_none stripper.token_nil]
  rfl

/-- A round before a terminator ends with it, inside it or before it. -/
theorem stripped_terminated (bytes : List UInt8) :
    ∃ out rest, Stripped (bytes ++ [iac, se]) out rest ∧
      (rest = [] ∨ rest = [se] ∨
        ∃ shorter, rest = shorter ++ [iac, se] ∧ shorter.length < bytes.length) := by
  match bytes with
  | [] => exact ⟨none, [], .command (by decide) (by decide) [], .inl rfl⟩
  | byte :: rest =>
      by_cases plain : byte ≠ iac
      · exact ⟨some byte, rest ++ [iac, se], .data plain _, .inr (.inr ⟨rest, rfl, by simp⟩)⟩
      · obtain rfl : byte = iac := not_not.mp plain
        match rest with
        | [] => exact ⟨none, [se], .command (by decide) (by decide) [se], .inr (.inl rfl)⟩
        | cmd :: body =>
            by_cases noSb : cmd = sb
            · subst noSb
              by_cases inside : se ∈ body
              · obtain ⟨before, after, rfl, outside⟩ := List.eq_append_cons_of_mem inside
                have shape : iac :: sb :: (before ++ se :: after) ++ [iac, se] =
                    iac :: sb :: (before ++ se :: (after ++ [iac, se])) := by simp
                rw [shape]
                refine ⟨none, after ++ [iac, se], .subnegotiation outside _,
                  .inr (.inr ⟨after, rfl, ?_⟩)⟩
                simp only [List.length_cons, List.length_append]
                omega
              · have shape : iac :: sb :: body ++ [iac, se] =
                    iac :: sb :: ((body ++ [iac]) ++ se :: []) := by simp
                rw [shape]
                refine ⟨none, [], .subnegotiation ?_ [], .inl rfl⟩
                simpa [iac_ne_se.symm] using inside
            · cases verb : isNegotiation cmd with
              | false =>
                  exact ⟨none, body ++ [iac, se], .command noSb verb _,
                    .inr (.inr ⟨body, rfl, by simp only [List.length_cons]; omega⟩)⟩
              | true =>
                  match body with
                  | [] => exact ⟨none, [se], .negotiation verb iac [se], .inr (.inl rfl)⟩
                  | option :: left =>
                      exact ⟨none, left ++ [iac, se], .negotiation verb option _,
                        .inr (.inr ⟨left, rfl, by simp only [List.length_cons]; omega⟩)⟩

/-- A terminator ends a round, whatever stands before it. -/
theorem scan_terminated (bytes : List UInt8) :
    (stripper.scan (bytes ++ [iac, se])).2 = [] := by
  induction length : bytes.length using Nat.strongRecOn generalizing bytes with
  | ind size ih =>
      subst length
      have nothing : (stripper.scan []).2 = [] := by rw [stripper.scan_none stripper.token_nil]
      obtain ⟨out, rest, stripped, left⟩ := stripped_terminated bytes
      rw [stripped.scan_eq]
      rcases left with rfl | rfl | ⟨shorter, rfl, less⟩
      · exact nothing
      · rw [(Stripped.data iac_ne_se.symm []).scan_eq]
        exact nothing
      · exact ih shorter.length less shorter rfl

/-- Behind a terminator the loop goes on as from the start. -/
theorem strip_terminated (bytes rest : List UInt8) :
    stripTelnetIac (bytes ++ iac :: se :: rest) =
      stripTelnetIac (bytes ++ [iac, se]) ++ stripTelnetIac rest := by
  have joined : bytes ++ iac :: se :: rest = (bytes ++ [iac, se]) ++ rest := by simp
  unfold stripTelnetIac
  rw [joined, stripper.scan_append, scan_terminated, List.nil_append, List.filterMap_append]

/-- Complete commands only, as this loop reads them. -/
inductive CommandsOnly : List UInt8 → Prop where
  | nil : CommandsOnly []
  | subnegotiation {body : List UInt8} (inside : se ∉ body) {rest : List UInt8}
      (later : CommandsOnly rest) : CommandsOnly (iac :: sb :: (body ++ se :: rest))
  | negotiation {cmd : UInt8} (verb : isNegotiation cmd = true) (option : UInt8)
      {rest : List UInt8} (later : CommandsOnly rest) :
      CommandsOnly (iac :: cmd :: option :: rest)
  | command {cmd : UInt8} (noSb : cmd ≠ sb) (noVerb : isNegotiation cmd = false)
      {rest : List UInt8} (later : CommandsOnly rest) : CommandsOnly (iac :: cmd :: rest)

theorem CommandsOnly.strip_eq {bytes : List UInt8} (only : CommandsOnly bytes) :
    stripTelnetIac bytes = [] := by
  induction only with
  | nil => exact stripTelnetIac_nil
  | subnegotiation inside _ ih => exact (Stripped.subnegotiation inside _).strip_eq.trans ih
  | negotiation verb option _ ih => exact (Stripped.negotiation verb option _).strip_eq.trans ih
  | command noSb noVerb _ ih => exact (Stripped.command noSb noVerb _).strip_eq.trans ih

theorem commandsOnly_of_strip {bytes : List UInt8} (ended : (stripper.scan bytes).2 = [])
    (nothing : stripTelnetIac bytes = []) : CommandsOnly bytes := by
  induction length : bytes.length using Nat.strongRecOn generalizing bytes with
  | ind size ih =>
      subst length
      cases found : stripper.token bytes with
      | none =>
          rw [stripper.scan_none found] at ended
          rw [show bytes = [] from ended]
          exact .nil
      | some pair =>
          obtain ⟨stripped, positive, bound⟩ := stripped_of_token found
          have shorter : (bytes.drop pair.2).length < bytes.length := by
            rw [List.length_drop]
            omega
          rw [stripped.scan_eq] at ended
          rw [stripped.strip_eq] at nothing
          have later := ih _ shorter ended (List.append_eq_nil_iff.mp nothing).2 rfl
          generalize bytes.drop pair.2 = rest at stripped later
          generalize pair.1 = out at stripped nothing
          cases stripped with
          | data plain => exact absurd nothing (List.cons_ne_nil _ _)
          | subnegotiation inside => exact .subnegotiation inside later
          | negotiation verb option => exact .negotiation verb option later
          | command noSb noVerb => exact .command noSb noVerb later

theorem strip_eq_nil_iff (bytes : List UInt8) :
    stripTelnetIac (bytes ++ [iac, se]) = [] ↔ CommandsOnly (bytes ++ [iac, se]) :=
  ⟨commandsOnly_of_strip (scan_terminated bytes), CommandsOnly.strip_eq⟩

/-- No byte of the output is IAC. -/
theorem iac_not_mem_strip (data : List UInt8) : iac ∉ stripTelnetIac data := by
  induction length : data.length using Nat.strongRecOn generalizing data with
  | ind size ih =>
      subst length
      cases found : stripper.token data with
      | none =>
          unfold stripTelnetIac
          rw [stripper.scan_none found]
          exact List.not_mem_nil
      | some pair =>
          obtain ⟨stripped, positive, bound⟩ := stripped_of_token found
          have shorter : (data.drop pair.2).length < data.length := by
            rw [List.length_drop]
            omega
          have later := ih _ shorter (data.drop pair.2) rfl
          rw [stripped.strip_eq]
          generalize data.drop pair.2 = rest at stripped later
          generalize pair.1 = out at stripped
          cases stripped with
          | data plain =>
              intro member
              rcases List.mem_cons.mp member with same | member
              · exact plain same.symm
              · exact later member
          | subnegotiation => exact later
          | negotiation => exact later
          | command => exact later

end Telnet

/-- A sequence of a complete stream as it stands on the wire: a subnegotiation is
everything between IAC SB and the first IAC SE. -/
inductive WireItem where
  | data (byte : UInt8)
  | command (cmd : UInt8)
  | negotiation (cmd option : UInt8)
  | subnegotiation (body : List UInt8)

namespace WireItem

open Telnet

def WellFormed : WireItem → Prop
  | data _ => True
  | command cmd => cmd ≠ iac ∧ cmd ≠ sb ∧ isNegotiation cmd = false
  | negotiation cmd _ => isNegotiation cmd = true
  | subnegotiation body => findSe (body ++ [iac, se]) = some body.length

def encode : WireItem → List UInt8
  | data byte => escapeByte byte
  | command cmd => [iac, cmd]
  | negotiation cmd option => [iac, cmd, option]
  | subnegotiation body => iac :: sb :: (body ++ [iac, se])

/-- The data of an item. -/
def payload : WireItem → List UInt8
  | data byte => [byte]
  | _ => []

/-- The second scanner leaves nothing of it out and lets nothing of it through: no
escaped byte, and after the first SE byte in a subnegotiation there are only complete
commands. -/
def Harmless : WireItem → Prop
  | data byte => byte ≠ iac
  | subnegotiation body => ∀ before after, body = before ++ se :: after → se ∉ before →
      CommandsOnly (after ++ [iac, se])
  | _ => True

/-- What the handler reads in an item. -/
def event : WireItem → TelnetEvent
  | data byte => .data byte
  | command cmd => .call (.handleTelnetCommand cmd)
  | negotiation cmd option => .call (.handleIacCommand cmd option)
  | subnegotiation [] => .call (.handleSubnegotiation iac [])
  | subnegotiation (option :: subPayload) => .call (.handleSubnegotiation option subPayload)

theorem reads {item : WireItem} (formed : item.WellFormed) :
    tokenizer.Reads item.encode item.event := by
  intro rest
  apply Complete.token_eq
  cases item with
  | data byte => exact complete_escapeByte byte rest
  | command cmd => exact .command formed.1 formed.2.2 formed.2.1 rest
  | negotiation cmd option => exact .negotiation formed option rest
  | subnegotiation body =>
      have ends := findSe_append rest formed
      cases body with
      | nil =>
          have complete : Complete (iac :: sb :: iac :: (se :: rest)) _ (0 + 4) :=
            .subnegotiation ends
          exact complete
      | cons option subPayload =>
          have complete : Complete (iac :: sb :: option :: (subPayload ++ [iac, se] ++ rest)) _
              (subPayload.length + 1 + 4) := .subnegotiation ends
          have shape : (subnegotiation (option :: subPayload)).encode ++ rest =
              iac :: sb :: option :: (subPayload ++ [iac, se] ++ rest) := by simp [encode]
          have width : (subnegotiation (option :: subPayload)).encode.length =
              subPayload.length + 1 + 4 := by simp [encode]
          rw [Nat.add_sub_cancel, List.append_assoc, List.take_left,
            ← List.append_assoc] at complete
          rw [shape, width]
          exact complete

theorem scan_encode {items : List WireItem} (formed : ∀ item ∈ items, item.WellFormed) :
    tokenizer.scan (items.flatMap encode) = (items.map event, []) := by
  have scanned := tokenizer.scan_flatMap (fun item member => reads (formed item member)) []
  rw [List.append_nil, tokenizer.scan_none tokenizer.token_nil, List.append_nil] at scanned
  exact scanned

theorem cleaned_event (items : List WireItem) :
    cleaned (items.map event) = items.flatMap payload := by
  induction items with
  | nil => rfl
  | cons item items ih =>
      have here : cleaned ((item :: items).map event) =
          item.payload ++ cleaned (items.map event) := by
        cases item with
        | subnegotiation body => cases body <;> rfl
        | _ => rfl
      rw [here, ih, List.flatMap_cons]

/-- The search finds the same place when the bytes end there. -/
theorem findSe_take {bytes : List UInt8} {index : Nat} (found : findSe bytes = some index) :
    findSe (bytes.take index ++ [iac, se]) = some index := by
  obtain ⟨rest, split⟩ := findSe_split found
  have bound := findSe_bound found
  have whole : bytes.take index ++ [iac, se] ++ rest = bytes := by
    rw [List.append_assoc, List.cons_append, List.cons_append, List.nil_append, ← split,
      List.take_append_drop]
  have inside : index + 2 ≤ (bytes.take index ++ [iac, se]).length := by
    rw [List.length_append, List.length_take, Nat.min_eq_left (by omega)]
    exact Nat.le_refl _
  rw [← findSe_append_iff inside, whole]
  exact found

theorem exists_encode {input : List UInt8} {out : TelnetEvent} {count : Nat}
    (complete : Complete input out count) :
    ∃ item : WireItem, item.WellFormed ∧ input = item.encode ++ input.drop count := by
  cases complete with
  | @data byte plain rest =>
      refine ⟨data byte, trivial, ?_⟩
      show byte :: rest = escapeByte byte ++ rest
      rw [escapeByte, if_neg plain]
      rfl
  | escaped rest => exact ⟨data iac, trivial, rfl⟩
  | @negotiation cmd verb option rest => exact ⟨.negotiation cmd option, verb, rfl⟩
  | @command cmd plain noVerb noSb rest => exact ⟨.command cmd, ⟨plain, noSb, noVerb⟩, rfl⟩
  | @subnegotiation option subPayload seIndex ends =>
      obtain ⟨rest, split⟩ := findSe_split ends
      have bound := findSe_bound ends
      have width : ((option :: subPayload).take seIndex).length = seIndex :=
        List.length_take_of_le (by omega)
      refine ⟨subnegotiation ((option :: subPayload).take seIndex), ?_, ?_⟩
      · show findSe _ = some _
        rw [findSe_take ends, width]
      · have left : (iac :: sb :: option :: subPayload).drop (seIndex + 4) = rest := by
          show (option :: subPayload).drop (seIndex + 2) = rest
          rw [← List.drop_drop, split]
          rfl
        have whole := List.take_append_drop seIndex (option :: subPayload)
        rw [split] at whole
        rw [left]
        show iac :: sb :: (option :: subPayload) = iac :: sb :: (_ ++ [iac, se] ++ rest)
        rw [List.append_assoc]
        exact congrArg (iac :: sb :: ·) whole.symm

/-- The items are exactly the complete streams, those that the handler reads to the
end. -/
theorem complete_iff (data : List UInt8) :
    (tokenizer.scan data).2 = [] ↔
      ∃ items : List WireItem, (∀ item ∈ items, item.WellFormed) ∧
        data = items.flatMap encode := by
  constructor
  · intro complete
    induction length : data.length using Nat.strongRecOn generalizing data with
    | ind size ih =>
        subst length
        cases found : tokenizer.token data with
        | none =>
            rw [tokenizer.scan_none found] at complete
            exact ⟨[], by simp, complete⟩
        | some pair =>
            obtain ⟨item, formed, split⟩ := exists_encode (complete_of_token found)
            have taken := tokenizer.consumes found
            have shorter : (data.drop pair.2).length < data.length := by
              rw [List.length_drop]
              omega
            rw [tokenizer.scan_some found] at complete
            obtain ⟨items, later, rest⟩ := ih _ shorter (data.drop pair.2) complete rfl
            refine ⟨item :: items, ?_, ?_⟩
            · intro other member
              rcases List.mem_cons.mp member with rfl | member
              · exact formed
              · exact later other member
            · rw [List.flatMap_cons, ← rest]
              exact split
  · rintro ⟨items, formed, rfl⟩
    rw [scan_encode formed]

/-- What the second scanner makes of an item. -/
theorem strip_encode (item : WireItem) (formed : item.WellFormed) :
    ∃ leaked, (∀ rest, stripTelnetIac (item.encode ++ rest) = leaked ++ stripTelnetIac rest) ∧
      (item.Harmless ↔ leaked = item.payload) ∧
      (item ≠ data iac → item.payload.length ≤ leaked.length) := by
  cases item with
  | data byte =>
      by_cases escaped : byte = iac
      · subst escaped
        refine ⟨[], fun rest => ?_, ?_, fun other => absurd rfl other⟩
        · exact (Stripped.command (by decide) (by decide) rest).strip_eq
        · exact iff_of_false (fun harmless => harmless rfl) (List.cons_ne_nil _ _).symm
      · refine ⟨[byte], fun rest => ?_, iff_of_true escaped rfl, fun _ => Nat.le_refl _⟩
        show stripTelnetIac (escapeByte byte ++ rest) = _
        rw [escapeByte, if_neg escaped]
        exact (Stripped.data escaped rest).strip_eq
  | command cmd =>
      refine ⟨[], fun rest => ?_, iff_of_true trivial rfl, fun _ => Nat.le_refl _⟩
      exact (Stripped.command formed.2.1 formed.2.2 rest).strip_eq
  | negotiation cmd option =>
      refine ⟨[], fun rest => ?_, iff_of_true trivial rfl, fun _ => Nat.le_refl _⟩
      exact (Stripped.negotiation formed option rest).strip_eq
  | subnegotiation body =>
      have joined : ∀ rest, (subnegotiation body).encode ++ rest =
          iac :: sb :: (body ++ iac :: se :: rest) := by simp [encode]
      by_cases inside : se ∈ body
      · obtain ⟨before, after, rfl, outside⟩ := List.eq_append_cons_of_mem inside
        refine ⟨stripTelnetIac (after ++ [iac, se]), fun rest => ?_, ?_,
          fun _ => Nat.zero_le _⟩
        · have shape : (subnegotiation (before ++ se :: after)).encode ++ rest =
              iac :: sb :: (before ++ se :: (after ++ iac :: se :: rest)) := by
            simp [encode]
          rw [shape, (Stripped.subnegotiation outside _).strip_eq, strip_terminated]
          rfl
        · show _ ↔ _ = []
          rw [strip_eq_nil_iff]
          constructor
          · intro harmless
            exact harmless before after rfl outside
          · intro only first second same unread
            have widths := (findIdx?_se outside after).symm.trans
              (same ▸ findIdx?_se unread second)
            obtain ⟨_, tails⟩ := List.append_inj same (Option.some.inj widths)
            obtain rfl : after = second := (List.cons.inj tails).2
            exact only
      · refine ⟨[], fun rest => ?_, iff_of_true ?_ rfl, fun _ => Nat.le_refl _⟩
        · have shape : (subnegotiation body).encode ++ rest =
              iac :: sb :: ((body ++ [iac]) ++ se :: rest) := by simp [encode]
          rw [shape]
          refine (Stripped.subnegotiation ?_ rest).strip_eq
          simpa [iac_ne_se.symm] using inside
        · rintro before after rfl _
          exact absurd (by simp) inside

/-- Without an escaped byte the second scanner yields no less than the data. -/
theorem payload_le_strip {items : List WireItem} (formed : ∀ item ∈ items, item.WellFormed)
    (unescaped : ∀ item ∈ items, item ≠ data iac) :
    (items.flatMap payload).length ≤ (stripTelnetIac (items.flatMap encode)).length := by
  induction items with
  | nil => exact Nat.zero_le _
  | cons item items ih =>
      obtain ⟨leaked, strips, _, atLeast⟩ := strip_encode item (formed item List.mem_cons_self)
      have here := atLeast (unescaped item List.mem_cons_self)
      have later := ih (fun other member => formed other (List.mem_cons_of_mem _ member))
        fun other member => unescaped other (List.mem_cons_of_mem _ member)
      rw [List.flatMap_cons, List.flatMap_cons, strips, List.length_append, List.length_append]
      omega

theorem strip_eq_payload_iff {items : List WireItem}
    (formed : ∀ item ∈ items, item.WellFormed)
    (unescaped : ∀ item ∈ items, item ≠ data iac) :
    stripTelnetIac (items.flatMap encode) = items.flatMap payload ↔
      ∀ item ∈ items, item.Harmless := by
  induction items with
  | nil => exact iff_of_true stripTelnetIac_nil (by simp)
  | cons item items ih =>
      obtain ⟨leaked, strips, harmless, atLeast⟩ :=
        strip_encode item (formed item List.mem_cons_self)
      have here := atLeast (unescaped item List.mem_cons_self)
      have formedLater := fun other member => formed other (List.mem_cons_of_mem item member)
      have unescapedLater := fun other member =>
        unescaped other (List.mem_cons_of_mem item member)
      have later := payload_le_strip formedLater unescapedLater
      rw [List.flatMap_cons, List.flatMap_cons, strips, List.forall_mem_cons, harmless,
        ← ih formedLater unescapedLater]
      constructor
      · intro same
        have lengths := congrArg List.length same
        rw [List.length_append, List.length_append] at lengths
        exact List.append_inj same (by omega)
      · rintro ⟨sameHere, sameLater⟩
        rw [sameHere, sameLater]

end WireItem

open Telnet WireItem

/-- On every complete stream the second scanner gives the data of the handler exactly
when all its items are harmless. -/
theorem strip_agrees_iff {items : List WireItem} (formed : ∀ item ∈ items, item.WellFormed)
    {stream : TelnetStream} (fresh : stream.telnetBuffer = []) :
    stripTelnetIac (items.flatMap encode) =
        (stream.processTelnetStream (items.flatMap encode)).1.1 ↔
      ∀ item ∈ items, item.Harmless := by
  have processed : (stream.processTelnetStream (items.flatMap encode)).1.1 =
      items.flatMap payload := by
    unfold TelnetStream.processTelnetStream
    rw [fresh, List.nil_append, scan_encode formed]
    exact cleaned_event items
  rw [processed]
  by_cases escaped : WireItem.data iac ∈ items
  · refine iff_of_false (fun same => ?_) (fun harmless => harmless _ escaped rfl)
    have member : iac ∈ items.flatMap payload :=
      List.mem_flatMap.mpr ⟨_, escaped, List.mem_singleton_self _⟩
    exact iac_not_mem_strip _ (same ▸ member)
  · exact strip_eq_payload_iff formed fun item member same => escaped (same ▸ member)

/-- Data, a command and a terminal type. -/
theorem strip_agrees_small :
    stripTelnetIac ([.data 0xC1, .command 0xEF, .subnegotiation [0x18, 0x00]].flatMap encode) =
      ((⟨[], []⟩ : TelnetStream).processTelnetStream
        ([.data 0xC1, .command 0xEF, .subnegotiation [0x18, 0x00]].flatMap encode)).1.1 := by
  refine (strip_agrees_iff ?_ rfl).mpr ?_
  · simp only [List.forall_mem_cons, List.not_mem_nil, false_implies, implies_true, and_true]
    exact ⟨trivial, ⟨by decide, by decide, by decide⟩, rfl⟩
  · simp only [List.forall_mem_cons, List.not_mem_nil, false_implies, implies_true, and_true]
    have plain : (0xC1 : UInt8) ≠ iac := by decide
    refine ⟨plain, trivial, fun before after same _ => ?_⟩
    have absent : se ∉ ([0x18, 0x00] : List UInt8) := by decide
    exact absurd (by simp [same]) absent

/-- An escaped byte is left out. -/
theorem not_strip_agrees_escaped :
    stripTelnetIac [0xFF, 0xFF] ≠
      ((⟨[], []⟩ : TelnetStream).processTelnetStream [0xFF, 0xFF]).1.1 := by
  decide

/-- Bytes of a subnegotiation get into the data. -/
example : stripTelnetIac [0xFF, 0xFA, 0x18, 0xF0, 0xC1, 0xFF, 0xF0, 0xC2] = [0xC1, 0xC2] := by
  decide

end Pure3270
