import QuorumGate.Json.Printer
import QuorumGate.Store.Memory
import QuorumGate.Transport.Registry

/-!
# Records survive the wire

Whatever record is written as JSON is read back as it was: every time with its offset and its
microseconds, every stage in its own word, every absent value as absent. Nothing is defaulted on the
way, so that no identifier is drawn.
-/

namespace QuorumGate

/-! ## Digits -/

namespace Instant

theorem digitValue?_digit (n : Nat) : digitValue? (digit n) = some (n % 10) := by
  have each : ∀ k < 10, digitValue? (digit k) = some k := by decide
  have same : digit n = digit (n % 10) := by simp [digit]
  rw [same]
  exact each (n % 10) (Nat.mod_lt n (by decide))

theorem toNat_digit (n : Nat) : (digit n).toNat - '0'.toNat = n % 10 := by
  have each : ∀ k < 10, (digit k).toNat - '0'.toNat = k := by decide
  have same : digit n = digit (n % 10) := by simp [digit]
  rw [same]
  exact each (n % 10) (Nat.mod_lt n (by decide))

theorem number2?_digits {n : Nat} (h : n < 100) : number2? (digit (n / 10)) (digit n) = some n := by
  simp only [number2?, digitValue?_digit, Option.bind_eq_bind, Option.bind_some, Option.pure_def,
    Option.some.injEq]
  omega

theorem number4?_digits {n : Nat} (h : n < 10000) :
    number4? (digit (n / 1000)) (digit (n / 100)) (digit (n / 10)) (digit n) = some n := by
  have high : number2? (digit (n / 1000)) (digit (n / 100)) = some (n / 100) := by
    have tens : n / 1000 = n / 100 / 10 := by omega
    rw [tens, number2?_digits (by omega)]
  have low : number2? (digit (n / 10)) (digit n) = some (n % 100) := by
    have hm := number2?_digits (n := n % 100) (by omega)
    have tens : digit (n % 100 / 10) = digit (n / 10) := by
      rw [digit, digit]
      congr 2
      omega
    have ones : digit (n % 100) = digit n := by
      rw [digit, digit]
      congr 2
      omega
    rwa [tens, ones] at hm
  simp only [number4?, high, low, Option.bind_eq_bind, Option.bind_some, Option.pure_def,
    Option.some.injEq]
  omega

theorem fractionMicros_sixDigits {n : Nat} (h : n < 1000000) :
    fractionMicros (sixDigits n) = n := by
  simp only [fractionMicros, sixDigits, List.cons_append, List.nil_append, List.take_succ_cons,
    List.take_zero, List.foldl_cons, List.foldl_nil, toNat_digit]
  omega

/-! ## Instants -/

theorem readDate?_dateChars (d : Date) (rest : List Char) :
    readDate? (dateChars d ++ rest) = some (d, rest) := by
  have year := number4?_digits (n := d.year) (Nat.lt_succ_of_le d.year_le)
  have month := number2?_digits (n := d.month) (by have := d.month_le; omega)
  have day := number2?_digits (n := d.day) (by
    have := d.day_le
    have : daysInMonth d.year d.month ≤ 31 := by
      unfold daysInMonth
      split <;> (try split) <;> omega
    omega)
  simp [dateChars, fourDigits, twoDigits, readDate?, year, month, day, Date.mk?_self]

/-- What stands for a time zone does not go on with the time of day. -/
theorem zone_head (o : Option Offset) :
    ∀ c ∈ (inJson.zone o).head?, (digitValue? c).isSome = false ∧ c ≠ '.' ∧ c ≠ ',' := by
  intro c hc
  cases o with
  | none => simp [Format.zone] at hc
  | some o =>
    have sign : c = 'Z' ∨ c = '-' ∨ c = '+' := by
      simp only [Format.zone, inJson, offsetChars] at hc
      split at hc
      · simp at hc
        exact .inl hc.symm
      · split at hc
        · simp at hc
          exact .inr (.inl hc.symm)
        · simp at hc
          exact .inr (.inr hc.symm)
    rcases sign with rfl | rfl | rfl <;> decide

/-- Seconds and their fraction, before what stands for a time zone. -/
theorem readSeconds?_chars (seconds fraction : Nat) (hs : seconds < 60) (hf : fraction < 1000000)
    (o : Option Offset) :
    readSeconds? (':' :: digit (seconds / 10) :: digit seconds ::
        ((if fraction = 0 then [] else '.' :: sixDigits fraction) ++ inJson.zone o)) =
      some (seconds * microsPerSecond + fraction, inJson.zone o) := by
  have number : number2? (digit (seconds / 10)) (digit seconds) = some seconds :=
    number2?_digits (by omega)
  have small : ¬59 < seconds := by omega
  have head := zone_head o
  by_cases none_left : fraction = 0
  · cases hz : inJson.zone o with
    | nil => simp [readSeconds?, number, small, none_left]
    | cons c rest =>
      obtain ⟨-, point, comma⟩ := head c (by simp [hz])
      simp [readSeconds?, number, small, none_left, point, comma]
  · have digits : ∀ c ∈ sixDigits fraction, (digitValue? c).isSome = true := by
      simp [sixDigits, digitValue?_digit]
    have after : (inJson.zone o).takeWhile (fun c => (digitValue? c).isSome) = [] := by
      cases hz : inJson.zone o with
      | nil => rfl
      | cons c rest => simp [(head c (by simp [hz])).1]
    have taken : (sixDigits fraction ++ inJson.zone o).takeWhile
        (fun c => (digitValue? c).isSome) = sixDigits fraction := by
      rw [List.takeWhile_append_of_pos digits, after, List.append_nil]
    have some_digits : (sixDigits fraction).isEmpty = false := rfl
    simp [readSeconds?, number, small, none_left, taken, some_digits,
      fractionMicros_sixDigits hf]

theorem readClock?_clockChars {micros : Nat} (h : micros < microsPerDay) (o : Option Offset) :
    readClock? (clockChars micros ++ inJson.zone o) = some (micros, inJson.zone o) := by
  have hour : micros / microsPerSecond / 3600 < 24 := by
    simp only [microsPerDay, microsPerSecond] at *
    omega
  have hours := number2?_digits (n := micros / microsPerSecond / 3600) (by omega)
  have minutes := number2?_digits (n := micros / microsPerSecond / 60 % 60) (by omega)
  have seconds := readSeconds?_chars (micros / microsPerSecond % 60) (micros % microsPerSecond)
    (Nat.mod_lt _ (by decide)) (Nat.mod_lt _ (by decide)) o
  have within : ¬(23 < micros / microsPerSecond / 3600 ∨
      59 < micros / microsPerSecond / 60 % 60) := by omega
  simp only [clockChars, twoDigits, List.cons_append, List.nil_append,
    readClock?, hours, minutes, seconds, within, Option.bind_eq_bind, Option.bind_some,
    Option.pure_def, ↓reduceIte, Option.some.injEq, Prod.mk.injEq, and_true]
  simp only [microsPerMinute, microsPerSecond]
  omega

theorem offset?_minutes (o : Offset) :
    offset? (o.minutes < 0) (o.minutes.natAbs / 60) (o.minutes.natAbs % 60) = some o := by
  have hl := o.lower
  have hu := o.upper
  have whole : ¬59 < o.minutes.natAbs % 60 := by omega
  have total : (if o.minutes < 0
      then -(((o.minutes.natAbs / 60 : Nat) : Int) * 60 + (o.minutes.natAbs % 60 : Nat))
      else ((o.minutes.natAbs / 60 : Nat) : Int) * 60 + (o.minutes.natAbs % 60 : Nat)) =
      o.minutes := by
    split <;> omega
  simp only [offset?, whole, decide_eq_true_eq, total, hl, hu, and_self, ↓reduceIte, ↓reduceDIte]

theorem readZone?_zone (o : Option Offset) : readZone? (inJson.zone o) = some o := by
  cases o with
  | none => rfl
  | some o =>
    by_cases utc : o.minutes = 0
    · have same : Offset.utc = o := by
        cases o
        cases utc
        rfl
      simp [Format.zone, inJson, utc, readZone?, same]
    · have hl := o.lower
      have hu := o.upper
      have hours := number2?_digits (n := o.minutes.natAbs / 60) (by omega)
      have minutes := number2?_digits (n := o.minutes.natAbs % 60) (by omega)
      have signed := offset?_minutes o
      by_cases west : o.minutes < 0 <;>
        simp [west] at signed <;>
        simp [Format.zone, inJson, utc, offsetChars, west, twoDigits, readZone?, readOffset?, hours,
          minutes, signed]

/-- A time that was written as JSON is read back with its offset and its microseconds. -/
theorem read?_iso (t : Instant) : read? t.iso.toList = some t := by
  have h : readDateTime? (inJson.chars t) = some t := by
    have separator : inJson.separator = 'T' := rfl
    simp [Format.chars, separator, readDateTime?, readDate?_dateChars,
      readClock?_clockChars t.micros_lt, readZone?_zone, t.micros_lt]
  rw [read?, iso, String.toList_ofList, h]
  rfl

end Instant

/-! ## Values -/

namespace Reading

variable {α β : Type} {k : String} {ms : Json.Members} {v : Json} {f : Json → Reading α} {a : α}

/-! To read a value without drawing an identifier is to be pure. -/

theorem map_eq {g : α → β} {x : Reading α} (h : x = pure a) : g <$> x = pure (g a) := by
  rw [h]
  rfl

theorem seq_eq {g : α → β} {x : Reading (α → β)} {y : Reading α} (hx : x = pure g)
    (hy : y = pure a) : x <*> y = pure (g a) := by
  rw [hx, hy]
  rfl

theorem required_eq (h : Json.lookup k ms = some v) (hf : f v = pure a) :
    required k f ms = pure a := by
  rw [required, h]
  exact congrArg (under (.key k)) hf

/-- The default is not looked at if the member is there. -/
theorem defaulted_eq {default : Reading α} (h : Json.lookup k ms = some v) (hf : f v = pure a) :
    defaulted k default f ms = pure a := by
  rw [defaulted, h]
  exact congrArg (under (.key k)) hf

theorem optional_eq {g : α → Json} {o : Option α} (h : Json.lookup k ms = some (.ofOption g o))
    (present : ∀ a, g a ≠ .null) (hf : ∀ a, f (g a) = pure a) : optional k f ms = pure o := by
  refine defaulted_eq h ?_
  cases o with
  | none => rfl
  | some a =>
    rw [Json.ofOption, nullable]
    · rw [hf]
      rfl
    · exact present a

theorem items_map {g : α → Json} {as : List α} (h : ∀ a ∈ as, f (g a) = pure a) (i : Nat) :
    items f i (as.map g) = pure as := by
  induction as generalizing i with
  | nil => rfl
  | cons a as ih =>
    rw [List.map_cons, items, h a List.mem_cons_self,
      ih (fun b hb => h b (List.mem_cons_of_mem a hb))]
    rfl

theorem list_listOf {g : α → Json} {as : List α} (h : ∀ a ∈ as, f (g a) = pure a) :
    list f (.listOf g as) = pure as := items_map h 0

theorem text_eq (t : Text) : text (.text t) = pure t := rfl

theorem int_whole (n : Int) : int (.whole n) = pure n := rfl

theorem instant_iso (t : Instant) : instant (.text t.iso) = pure t := by
  simp [instant, onChars, Text.ofString, Instant.read?_iso, orRefuse]

theorem member_word {word : α → String} {ofWord? : String → Option α}
    (h : ofWord? (word a) = some a) : member ofWord? (.text (word a)) = pure a := by
  simp [member, h, orRefuse]

/-- A word of a closed set has no blanks around it and no capital letters. -/
theorem looseMember_word {word : α → String} {ofWord? : String → Option α}
    (tidy : (word a : Text).strip.lower = word a) (h : ofWord? (word a) = some a) :
    looseMember ofWord? (.text (word a)) = pure a := by
  rw [looseMember, tidy, member_word h]

end Reading

/-! ## Records -/

open Reading

/-- A policy that was written as JSON is read back as it was. -/
theorem Policy.ofJson_toJson (p : Policy) : ofJson p.toJson = pure p := by
  rw [ofJson, toJson, object]
  refine seq_eq (seq_eq (seq_eq (seq_eq (seq_eq (seq_eq (map_eq ?_) ?_) ?_) ?_) ?_) ?_) ?_
  · exact required_eq rfl (text_eq p.id)
  · exact required_eq rfl (text_eq p.name)
  · exact required_eq rfl (list_listOf fun t _ => text_eq t)
  · exact required_eq rfl (int_whole p.threshold)
  · exact optional_eq rfl (by simp [Json.whole]) int_whole
  · exact required_eq rfl (text_eq p.createdBy)
  · exact required_eq rfl (instant_iso p.createdAt)

/-- The identifier of a signature is read back, and no other one is drawn for it. -/
theorem Signature.ofJson_toJson (s : Signature) : ofJson s.toJson = pure s := by
  rw [ofJson, toJson, object]
  refine seq_eq (seq_eq (seq_eq (map_eq ?_) ?_) ?_) ?_
  · exact defaulted_eq rfl (text_eq s.id)
  · exact required_eq rfl (text_eq s.signer)
  · exact optional_eq rfl (by simp) text_eq
  · exact required_eq rfl (instant_iso s.signedAt)

theorem Execution.ofJson_toJson (e : Execution) : ofJson e.toJson = pure e := by
  rw [ofJson, toJson, object]
  refine seq_eq (seq_eq (seq_eq (seq_eq (map_eq ?_) ?_) ?_) ?_) ?_
  · exact required_eq rfl (text_eq e.id)
  · exact required_eq rfl (member_word (Outcome.ofWord?_word e.outcome))
  · exact optional_eq rfl (by simp) text_eq
  · exact optional_eq rfl (by simp) text_eq
  · exact optional_eq rfl (by simp) instant_iso

theorem Network.strip_lower_word (n : Network) : (n.word : Text).strip.lower = n.word := by
  cases n <;> rfl

theorem Status.strip_lower_word (s : Status) : (s.word : Text).strip.lower = s.word := by
  cases s <;> rfl

/-- A proposal that was written as JSON is read back as it was. -/
theorem Proposal.ofJson_toJson (p : Proposal) : ofJson p.toJson = pure p := by
  rw [ofJson, toJson, object]
  refine seq_eq (seq_eq (seq_eq (seq_eq (seq_eq (seq_eq (seq_eq (seq_eq (seq_eq (seq_eq (seq_eq
    (seq_eq (seq_eq (seq_eq (map_eq ?_) ?_) ?_) ?_) ?_) ?_) ?_) ?_) ?_) ?_) ?_) ?_) ?_) ?_) ?_
  · exact required_eq rfl (text_eq p.id)
  · exact required_eq rfl (text_eq p.policyId)
  · exact required_eq rfl (text_eq p.contractName)
  · exact required_eq rfl (text_eq p.contractId)
  · exact required_eq rfl (text_eq p.wasmHash)
  · exact required_eq rfl
      (looseMember_word p.network.strip_lower_word (Network.ofWord?_word p.network))
  · exact required_eq rfl (text_eq p.proposer)
  · exact optional_eq rfl (by simp) text_eq
  · exact required_eq rfl (instant_iso p.createdAt)
  · exact optional_eq rfl (by simp) instant_iso
  · exact defaulted_eq rfl (list_listOf fun s _ => s.ofJson_toJson)
  · exact defaulted_eq rfl
      (looseMember_word p.status.strip_lower_word (Status.ofWord?_word p.status))
  · exact defaulted_eq rfl (int_whole p.version)
  · exact optional_eq rfl (by simp) instant_iso
  · exact optional_eq rfl (by simp [Execution.toJson]) Execution.ofJson_toJson

/-! ## Comparing values

Real numbers cannot be told apart by a decision. Records hold none. -/

namespace Json

mutual

/-- Whether two values are the same and hold no real number. -/
def alike : Json → Json → Bool
  | null, null => true
  | bool b, bool c => b == c
  | number (.whole m), number (.whole n) => m == n
  | text s, text t => s == t
  | list vs, list ws => itemsAlike vs ws
  | object ms, object ns => membersAlike ms ns
  | _, _ => false

def itemsAlike : List Json → List Json → Bool
  | [], [] => true
  | v :: vs, w :: ws => alike v w && itemsAlike vs ws
  | _, _ => false

def membersAlike : Members → Members → Bool
  | [], [] => true
  | (k, v) :: ms, (l, w) :: ns => k == l && alike v w && membersAlike ms ns
  | _, _ => false

end

mutual

theorem eq_of_alike : ∀ {v w : Json}, alike v w = true → v = w
  | null, w, h => by cases w <;> simp_all [alike]
  | bool b, w, h => by cases w <;> simp_all [alike]
  | number (.whole m), w, h => by
    cases w with
    | number n => cases n <;> simp_all [alike]
    | _ => simp [alike] at h
  | number (.real x), w, h => by cases w <;> simp [alike] at h
  | text t, w, h => by cases w <;> simp_all [alike]
  | list vs, w, h => by
    cases w with
    | list ws => exact congrArg list (eq_of_itemsAlike h)
    | _ => simp [alike] at h
  | object ms, w, h => by
    cases w with
    | object ns => exact congrArg object (eq_of_membersAlike h)
    | _ => simp [alike] at h

theorem eq_of_itemsAlike : ∀ {vs ws : List Json}, itemsAlike vs ws = true → vs = ws
  | [], ws, h => by cases ws <;> simp_all [itemsAlike]
  | v :: vs, ws, h => by
    cases ws with
    | nil => simp [itemsAlike] at h
    | cons w ws =>
      rw [itemsAlike, Bool.and_eq_true] at h
      rw [eq_of_alike h.1, eq_of_itemsAlike h.2]

theorem eq_of_membersAlike : ∀ {ms ns : Members}, membersAlike ms ns = true → ms = ns
  | [], ns, h => by cases ns <;> simp_all [membersAlike]
  | (k, v) :: ms, ns, h => by
    cases ns with
    | nil => simp [membersAlike] at h
    | cons n ns =>
      obtain ⟨l, w⟩ := n
      rw [membersAlike, Bool.and_eq_true, Bool.and_eq_true, beq_iff_eq] at h
      rw [h.1.1, eq_of_alike h.1.2, eq_of_membersAlike h.2]

end

end Json

/-- Whether a response has a body of just these members, none of them a real number. -/
def Response.holds (r : Response) (ms : Json.Members) : Bool :=
  match r.payload with
  | .ok ns => Json.membersAlike ns ms
  | .error _ => false

theorem Response.payload_of_holds {r : Response} {ms : Json.Members} (h : r.holds ms = true) :
    r.payload = .ok ms := by
  unfold holds at h
  split at h
  · rename_i ns payload
    rw [payload, Json.eq_of_membersAlike h]
  · cases h

/-! ## Writing to a registry -/

/-- The body of a write, and the record that it stands for. -/
def StoreOp.written? : (op : StoreOp) → Option (Json.Members × op.Result)
  | .insertPolicy p => some (p.members, p)
  | .insertProposal p => some (p.members, p)
  | .updateProposal p expected =>
    some ((Store.committed p expected).members, Store.committed p expected)
  | _ => none

namespace Registry

/-- The reply to a body is a success, which is not asked for again, and the same body. -/
structure Echoes (g : Registry) (reply : Json → Response) (ms : Json.Members) : Prop where
  patient : 0 ≤ g.patience.retries
  success : (reply (.object ms)).status < 400
  final : (reply (.object ms)).status ∉ g.patience.statuses
  body : (reply (.object ms)).payload = .ok ms

variable {α β : Type} {g : Registry} {reply : Json → Response} {ms : Json.Members}
  {correlation : Text}

/-- A record that is read back as it was draws no identifier. -/
theorem record_echoed {model : String} {read : Json → Reading α} {v : Json} {a : α}
    (h : read v = pure a) : record model read v = .done a := by
  have drawn : (read v).draws = 0 := by
    rw [h]
    rfl
  have result : (read v).resultWith [] = .ok a := by
    rw [h]
    rfl
  rw [record, drawn, Transport.freshSignatures, Program.pure_eq, Program.done_bind, result]
  rfl

theorem checkStatus_ok {status : Int} (h : status < 400) : checkStatus status ms = .done () := by
  have good : ¬400 ≤ status := by omega
  simp [checkStatus, good]

end Registry

/-! ## A record that is sent

A proposal with one signature, of a time with an offset and a fraction of a second. -/

namespace SignedOnce

theorem early : 500 < microsPerDay := by decide

theorem westward : (-1440 : Int) < -90 ∧ (-90 : Int) < 1440 := by decide

def moment : Instant :=
  ⟨⟨2027, 4, 2, by decide, by decide, by decide, by decide, by decide, by decide⟩, 500, early,
    some ⟨-90, westward.1, westward.2⟩⟩

def proposal : Proposal where
  id := "P"
  policyId := "N"
  contractName := "k"
  contractId := "K"
  wasmHash := "h"
  network := .testnet
  proposer := "x"
  description := none
  createdAt := moment
  expiresAt := none
  signatures := [⟨"S", "a", none, moment⟩]
  status := .approved
  version := 1
  executedAt := none
  execution := none

def registry : Registry :=
  ⟨"http://registry", .whole 10, ⟨2, .whole 1, Transport.unavailableStatuses⟩⟩

/-- The body as it has come. -/
def echo (v : Json) : Response :=
  ⟨200, [], v.compactChars.map fun c => UInt8.ofNat c.toNat, 100⟩

theorem echoes : registry.Echoes echo (Store.committed proposal 1).members where
  patient := by decide
  success := by decide
  final := by decide
  body := Response.payload_of_holds (by decide +kernel)

end SignedOnce

end QuorumGate
