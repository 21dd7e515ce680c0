import QuorumGate.Proofs.Json.StringLiteral
import QuorumGate.Proofs.Text.AsciiBytes
import QuorumGate.Proposal.Payload

/-!
# The payload pins one deployment

The bytes that are signed are read back as the four fields they were written from, so that two
proposals have one payload only if they ask for one deployment: no text can be chosen that closes
its literal and reaches into the next field.
-/

namespace QuorumGate

theorem Text.exists_ofList {t : Text} (whole : t.isWhole) : ∃ cs, t = .ofList cs := by
  obtain ⟨gs⟩ := t
  suffices h : ∀ gs : List Glyph, (Text.charsOf? gs).isSome → ∃ cs : List Char, gs = cs.map .char by
    obtain ⟨cs, rfl⟩ := h gs whole
    exact ⟨cs, rfl⟩
  intro gs
  induction gs with
  | nil => exact fun _ => ⟨[], rfl⟩
  | cons g gs ih =>
    intro found
    cases g with
    | char c =>
      obtain ⟨cs, rfl⟩ := ih (by simpa [Text.charsOf?] using found)
      exact ⟨c :: cs, rfl⟩
    | surrogate n => simp [Text.charsOf?] at found

theorem Text.isWhole_ofString (s : String) : (s : Text).isWhole := by
  simp [isWhole, ofString]

namespace Json

/-! ## Objects of texts -/

section Reading

variable {depth bound : Nat}

theorem skipSpace_cons {c : Char} (mark : isSpace c = false) (rest : List Glyph) :
    skipSpace (.char c :: rest) = .char c :: rest := by
  simp [skipSpace, Glyph.isIn, mark]

theorem stringTail_literal {t : Text} (whole : t.isWhole) (rest : List Glyph) :
    ∃ tail, (stringLiteral t).map .char ++ rest = .char '"' :: tail ∧
      stringTail tail = .ok (t, rest) := by
  obtain ⟨cs, rfl⟩ := Text.exists_ofList whole
  refine ⟨(cs.flatMap escapeChar).map .char ++ .char '"' :: rest, ?_, stringTail_ofList cs rest⟩
  simp [stringLiteral_ofList]

theorem valueWithin_literal {t : Text} (whole : t.isWhole) (rest : List Glyph) :
    valueWithin depth (bound + 1) ((stringLiteral t).map .char ++ rest) = .ok (.text t, rest) := by
  obtain ⟨tail, front, read⟩ := stringTail_literal whole rest
  rw [front, valueWithin, skipSpace_cons rfl]
  simp [read, Except.map]

/-- A member that another one follows. -/
theorem membersWithin_comma {k v : Text} (hk : k.isWhole) (hv : v.isWhole) (acc : Members)
    (rest : List Glyph) :
    membersWithin depth (bound + 2) acc
        ((stringLiteral k ++ ':' :: stringLiteral v).map .char ++ .char ',' :: rest) =
      membersWithin depth (bound + 1) (put k (.text v) acc) rest := by
  obtain ⟨tail, front, read⟩ := stringTail_literal hk
    (.char ':' :: ((stringLiteral v).map .char ++ .char ',' :: rest))
  rw [List.map_append, List.append_assoc, List.map_cons, List.cons_append, front, membersWithin,
    skipSpace_cons rfl]
  simp only [read, skipSpace_cons (c := ':') rfl, skipSpace_cons (c := ',') rfl,
    valueWithin_literal hv]

/-- The last member. -/
theorem membersWithin_close {k v : Text} (hk : k.isWhole) (hv : v.isWhole) (acc : Members)
    (rest : List Glyph) :
    membersWithin depth (bound + 2) acc
        ((stringLiteral k ++ ':' :: stringLiteral v).map .char ++ .char '}' :: rest) =
      .ok (object (put k (.text v) acc), rest) := by
  obtain ⟨tail, front, read⟩ := stringTail_literal hk
    (.char ':' :: ((stringLiteral v).map .char ++ .char '}' :: rest))
  rw [List.map_append, List.append_assoc, List.map_cons, List.cons_append, front, membersWithin,
    skipSpace_cons rfl]
  simp only [read, skipSpace_cons (c := ':') rfl, skipSpace_cons (c := '}') rfl,
    valueWithin_literal hv]

/-- The members whose values are all texts. -/
def textMembers (ms : List (Text × Text)) : Members := ms.map fun m => (m.1, .text m.2)

/-- The members are set one after another, as they stand. -/
theorem membersWithin_texts {m : Text × Text} {ms : List (Text × Text)}
    (whole : ∀ m' ∈ m :: ms, m'.1.isWhole ∧ m'.2.isWhole) (enough : ms.length < bound)
    (acc : Members) (rest : List Glyph) :
    membersWithin depth (bound + 1) acc
        ((compactMembers (textMembers (m :: ms))).map .char ++ .char '}' :: rest) =
      .ok (object ((m :: ms).foldl (fun acc m => put m.1 (.text m.2) acc) acc), rest) := by
  induction ms generalizing m bound acc with
  | nil =>
    obtain ⟨bound, rfl⟩ := Nat.exists_eq_add_of_lt enough
    obtain ⟨hk, hv⟩ := whole m List.mem_cons_self
    show membersWithin depth _ acc
      ((stringLiteral m.1 ++ ':' :: stringLiteral m.2).map .char ++ _) = _
    exact membersWithin_close hk hv acc rest
  | cons m' ms ih =>
    obtain ⟨bound, rfl⟩ := Nat.exists_eq_add_of_lt enough
    obtain ⟨hk, hv⟩ := whole m List.mem_cons_self
    have shape : (compactMembers (textMembers (m :: m' :: ms))).map .char ++ .char '}' :: rest =
        (stringLiteral m.1 ++ ':' :: stringLiteral m.2).map Glyph.char ++
          .char ',' ::
            ((compactMembers (textMembers (m' :: ms))).map .char ++ .char '}' :: rest) := by
      simp [textMembers, compactMembers, compactChars]
    rw [shape, membersWithin_comma hk hv]
    exact ih (fun m'' h => whole m'' (List.mem_cons_of_mem m h)) (by simp; omega) _

theorem ascii_textMembers {ms : List (Text × Text)} {c : Char}
    (h : c ∈ compactMembers (textMembers ms)) : c.toNat < 0x80 := by
  induction ms with
  | nil => exact absurd h List.not_mem_nil
  | cons m ms ih =>
    cases ms with
    | nil =>
      simp only [textMembers, List.map_cons, List.map_nil, compactMembers, compactChars,
        List.mem_append, List.mem_cons] at h
      rcases h with hk | rfl | hv
      · exact ascii_stringLiteral hk
      · decide
      · exact ascii_stringLiteral hv
    | cons m' ms =>
      simp only [textMembers, List.map_cons, compactMembers, compactChars, List.mem_append,
        List.mem_cons] at h
      rcases h with (hk | rfl | hv) | rfl | rest
      · exact ascii_stringLiteral hk
      · decide
      · exact ascii_stringLiteral hv
      · decide
      · exact ih rest

theorem length_le_compactMembers (ms : Members) : ms.length ≤ (compactMembers ms).length := by
  induction ms with
  | nil => exact Nat.zero_le _
  | cons m ms ih =>
    cases ms with
    | nil =>
      simp only [compactMembers, List.length_append, List.length_cons, List.length_nil]
      omega
    | cons m' ms =>
      simp only [compactMembers, List.length_append, List.length_cons] at ih ⊢
      omega

end Reading

theorem exists_compactMembers (m : Text × Text) (ms : List (Text × Text)) :
    ∃ tail, compactMembers (textMembers (m :: ms)) = '"' :: tail := by
  cases ms with
  | nil => exact ⟨_, rfl⟩
  | cons m' ms => exact ⟨_, rfl⟩

/-- A text that begins like an object is taken for UTF-8. -/
theorem detect?_object (bs : Text.Bytes) :
    Text.detect? (0x7B :: 0x22 :: bs) = Text.utf8? (0x7B :: 0x22 :: bs) := by
  rfl

/-- The characters of an object of texts. -/
def objectChars (ms : List (Text × Text)) : List Char := (object (textMembers ms)).compactChars

theorem ascii_objectChars {ms : List (Text × Text)} {c : Char} (h : c ∈ objectChars ms) :
    c.toNat < 0x80 := by
  simp only [objectChars, compactChars, List.mem_cons, List.mem_append, List.not_mem_nil,
    or_false] at h
  rcases h with (rfl | h) | rfl
  · decide
  · exact ascii_textMembers h
  · decide

theorem parse_objectChars {m : Text × Text} {ms : List (Text × Text)} {depth : Nat}
    (whole : ∀ m' ∈ m :: ms, m'.1.isWhole ∧ m'.2.isWhole) :
    parse (depth + 1) ((objectChars (m :: ms)).map .char) =
      .ok (object ((m :: ms).foldl (fun acc m => put m.1 (.text m.2) acc) [])) := by
  have shape : (objectChars (m :: ms)).map Glyph.char =
      .char '\x7b' :: ((compactMembers (textMembers (m :: ms))).map .char ++ [.char '\x7d']) := by
    simp [objectChars, compactChars]
  have enough : ms.length < 2 * ((objectChars (m :: ms)).map Glyph.char).length := by
    have least := length_le_compactMembers (textMembers (m :: ms))
    simp only [textMembers, List.length_map, List.length_cons] at least
    simp only [shape, textMembers, List.length_cons, List.length_append, List.length_map]
    omega
  obtain ⟨tail, quote⟩ := exists_compactMembers m ms
  have value : valueWithin (depth + 1) (2 * ((objectChars (m :: ms)).map Glyph.char).length + 2)
      ((objectChars (m :: ms)).map .char) =
      .ok (object ((m :: ms).foldl (fun acc m => put m.1 (.text m.2) acc) []), []) := by
    have members : membersWithin depth _ [] _ = _ := membersWithin_texts whole enough [] []
    rw [← members, valueWithin]
    simp only [shape, skipSpace_cons (c := '\x7b') rfl, quote, List.map_cons, List.cons_append,
      skipSpace_cons (c := '"') rfl]
    rfl
  rw [parse, value]
  rfl

/-- An object of texts is read from its bytes as it was written. -/
theorem parseBytes?_textMembers {m : Text × Text} {ms : List (Text × Text)}
    (whole : ∀ m' ∈ m :: ms, m'.1.isWhole ∧ m'.2.isWhole) (depth : Nat) :
    parseBytes? (depth + 1) (Text.utf8Bytes (object (textMembers (m :: ms))).compact) =
      some (.ok (object ((m :: ms).foldl (fun acc m => put m.1 (.text m.2) acc) []))) := by
  have bytes : Text.utf8Bytes (object (textMembers (m :: ms))).compact =
      Text.asciiBytes (objectChars (m :: ms)) := Text.utf8Bytes_ascii fun c => ascii_objectChars
  obtain ⟨tail, quote⟩ := exists_compactMembers m ms
  have front : Text.asciiBytes (objectChars (m :: ms)) =
      0x7B :: 0x22 :: Text.asciiBytes (tail ++ ['\x7d']) := by
    simp [objectChars, compactChars, quote, Text.asciiBytes]
  have detected : Text.detect? (Text.asciiBytes (objectChars (m :: ms))) =
      some ((objectChars (m :: ms)).map .char) := by
    rw [front, detect?_object, ← front, Text.utf8?_asciiBytes fun c => ascii_objectChars]
  rw [parseBytes?, bytes, detected, Option.map_some, parse_objectChars whole]

end Json

/-! ## The payload -/

theorem Network.text_word_inj {n n' : Network} (h : (n.word : Text) = n'.word) : n = n' := by
  revert h
  cases n <;> cases n' <;> decide

namespace Proposal

/-- No text that the payload names holds a lone surrogate. -/
structure Whole (p : Proposal) : Prop where
  contractId : p.contractId.isWhole
  policyId : p.policyId.isWhole
  wasmHash : p.wasmHash.isWhole

/-- The two ask for one deployment under one policy. -/
structure SameDeployment (p q : Proposal) : Prop where
  contractId : p.contractId = q.contractId
  network : p.network = q.network
  policyId : p.policyId = q.policyId
  wasmHash : p.wasmHash = q.wasmHash

/-- The fields of the payload, in their order. -/
def payloadFields (p : Proposal) : List (Text × Text) :=
  [("contract_id", p.contractId), ("network", p.network.word), ("policy_id", p.policyId),
    ("wasm_hash", p.wasmHash)]

/-- The payload is read back as the four fields it was written from. -/
theorem parseBytes?_payload {p : Proposal} (whole : p.Whole) (depth : Nat) :
    Json.parseBytes? (depth + 1) (Text.utf8Bytes p.payload) =
      some (.ok (.object [("contract_id", .text p.contractId), ("network", .text p.network.word),
        ("policy_id", .text p.policyId), ("wasm_hash", .text p.wasmHash)])) := by
  have fields : ∀ m ∈ p.payloadFields, m.1.isWhole ∧ m.2.isWhole := by
    intro m hm
    simp only [payloadFields, List.mem_cons, List.not_mem_nil, or_false] at hm
    rcases hm with rfl | rfl | rfl | rfl
    · exact ⟨Text.isWhole_ofString _, whole.contractId⟩
    · exact ⟨Text.isWhole_ofString _, Text.isWhole_ofString _⟩
    · exact ⟨Text.isWhole_ofString _, whole.policyId⟩
    · exact ⟨Text.isWhole_ofString _, whole.wasmHash⟩
  have read := Json.parseBytes?_textMembers fields depth
  exact read

theorem ascii_payload (p : Proposal) {b : UInt8} (h : b ∈ Text.utf8Bytes p.payload) : b < 0x80 := by
  have ascii : ∀ c ∈ (Json.object p.payloadMembers).compactChars, c.toNat < 0x80 := fun c hc =>
    Json.ascii_objectChars (show c ∈ Json.objectChars p.payloadFields from hc)
  rw [payload, Json.compact, Text.utf8Bytes_ascii ascii] at h
  exact Text.lt_of_mem_asciiBytes ascii h

theorem SameDeployment.of_payload {p q : Proposal} (hp : p.Whole) (hq : q.Whole)
    (same : Text.utf8Bytes p.payload = Text.utf8Bytes q.payload) : p.SameDeployment q := by
  have read := parseBytes?_payload hq 0
  rw [← same, parseBytes?_payload hp] at read
  simp only [Option.some.injEq, Except.ok.injEq, Json.object.injEq, List.cons.injEq,
    Prod.mk.injEq, Json.text.injEq, true_and, and_true] at read
  obtain ⟨contractId, network, policyId, wasmHash⟩ := read
  exact ⟨contractId, Network.text_word_inj network, policyId, wasmHash⟩

/-- The bytes that are signed name one deployment. They are ASCII, are read as an object of the four
fields and nothing else by any reader that reads objects at all, and two proposals share them just
when they agree on all four. -/
theorem payload_pins_deployment {p q : Proposal} (hp : p.Whole) (hq : q.Whole) :
    (Text.utf8Bytes p.payload = Text.utf8Bytes q.payload ↔ p.SameDeployment q) ∧
      (∀ b ∈ Text.utf8Bytes p.payload, b < 0x80) ∧
      ∀ depth, Json.parseBytes? (depth + 1) (Text.utf8Bytes p.payload) =
        some (.ok (.object [("contract_id", .text p.contractId), ("network", .text p.network.word),
          ("policy_id", .text p.policyId), ("wasm_hash", .text p.wasmHash)])) := by
  refine ⟨⟨.of_payload hp hq, fun same => ?_⟩, fun b => ascii_payload p, parseBytes?_payload hp⟩
  rw [payload, payload, payloadMembers, payloadMembers, same.contractId, same.network,
    same.policyId, same.wasmHash]

end Proposal

/-! ## An id that closes its literal

It would name another network, if its quotes were written bare. -/

namespace Smuggling

def request (contractId : Text) : Proposal where
  id := "P"
  policyId := "N"
  contractName := "k"
  contractId := contractId
  wasmHash := "h"
  network := .testnet
  proposer := "x"
  description := none
  createdAt := ⟨⟨2028, 5, 17, by decide, by decide, by decide, by decide, by decide, by decide⟩, 1,
    by decide, none⟩
  expiresAt := none
  signatures := []
  status := .pending
  version := 0
  executedAt := none
  execution := none

def smuggling : Proposal := request "K\",\"network\":\"mainnet\\\n\x01\x7f𝄞"

theorem kept_apart : (request "K").Whole ∧ smuggling.Whole ∧
    Text.utf8Bytes (request "K").payload ≠ Text.utf8Bytes smuggling.payload := by
  have honest : (request "K").Whole :=
    ⟨Text.isWhole_ofString _, Text.isWhole_ofString _, Text.isWhole_ofString _⟩
  have whole : smuggling.Whole :=
    ⟨Text.isWhole_ofString _, Text.isWhole_ofString _, Text.isWhole_ofString _⟩
  refine ⟨honest, whole, fun same => ?_⟩
  have agree := (Proposal.payload_pins_deployment honest whole).1.1 same
  exact absurd agree.contractId (by decide)

end Smuggling

end QuorumGate
