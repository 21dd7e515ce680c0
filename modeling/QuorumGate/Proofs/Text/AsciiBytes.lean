import QuorumGate.Text.Encoding

/-!
# ASCII as bytes

One byte a character, and the bytes are read back as the characters they came from.
-/

namespace QuorumGate.Text

theorem byteArray_toList_loop (bs : ByteArray) (i : Nat) (front : Bytes) :
    ByteArray.toList.loop bs i front = front.reverse ++ bs.data.toList.drop i := by
  induction i, front using ByteArray.toList.loop.induct bs with
  | case1 i front inside ih =>
    have inside' : i < bs.data.toList.length := by simpa using inside
    have here : bs.get! i = bs.data.toList[i] := by
      simpa [ByteArray.get!] using getElem!_pos bs.data i (by simpa using inside)
    rw [ByteArray.toList.loop, if_pos inside, ih, List.drop_eq_getElem_cons inside', here]
    simp
  | case2 i front beyond =>
    have beyond' : bs.data.toList.length ≤ i := by simpa using beyond
    rw [ByteArray.toList.loop, if_neg beyond, List.drop_eq_nil_of_le beyond', List.append_nil]

theorem utf8Bytes_ofList (cs : List Char) :
    utf8Bytes (String.ofList cs) = cs.flatMap String.utf8EncodeChar := by
  rw [utf8Bytes, ByteArray.toList, byteArray_toList_loop, String.toUTF8_eq_toByteArray,
    String.toByteArray_ofList, List.utf8Encode, List.toList_data_toByteArray]
  rfl

/-- The bytes of a text of ASCII characters. -/
def asciiBytes (cs : List Char) : Bytes := cs.map fun c => UInt8.ofNat c.toNat

theorem utf8EncodeChar_ascii {c : Char} (ascii : c.toNat < 0x80) :
    String.utf8EncodeChar c = [UInt8.ofNat c.toNat] := by
  have one : c.utf8Size = 1 := by
    rw [Char.utf8Size_eq_one_iff, UInt32.le_iff_toNat_le]
    exact Nat.le_of_lt_succ ascii
  rw [String.utf8EncodeChar_eq_singleton one]
  rfl

theorem toNat_asciiByte {c : Char} (ascii : c.toNat < 0x80) :
    (UInt8.ofNat c.toNat).toNat = c.toNat := by
  simp only [UInt8.toNat_ofNat']
  omega

theorem utf8Bytes_ascii {cs : List Char} (ascii : ∀ c ∈ cs, c.toNat < 0x80) :
    utf8Bytes (String.ofList cs) = asciiBytes cs := by
  rw [utf8Bytes_ofList]
  induction cs with
  | nil => rfl
  | cons c cs ih =>
    rw [List.flatMap_cons, utf8EncodeChar_ascii (ascii c List.mem_cons_self),
      ih fun d hd => ascii d (List.mem_cons_of_mem c hd)]
    rfl

theorem lt_of_mem_asciiBytes {cs : List Char} (ascii : ∀ c ∈ cs, c.toNat < 0x80) {b : UInt8}
    (h : b ∈ asciiBytes cs) : b < 0x80 := by
  obtain ⟨c, hc, rfl⟩ := List.mem_map.1 h
  exact UInt8.lt_iff_toNat_lt.2 ((toNat_asciiByte (ascii c hc)).symm ▸ ascii c hc)

theorem utf8Read_ascii {cs : List Char} (ascii : ∀ c ∈ cs, c.toNat < 0x80) (surrogates : Bool)
    (front : List (Option Glyph)) :
    utf8Read surrogates front .between (asciiBytes cs) =
      front.reverse ++ cs.map fun c => some (.char c) := by
  induction cs generalizing front with
  | nil => simp [asciiBytes, utf8Read]
  | cons c cs ih =>
    have hc := ascii c List.mem_cons_self
    show utf8Read surrogates front .between (UInt8.ofNat c.toNat :: asciiBytes cs) = _
    have start : utf8Step surrogates .between (UInt8.ofNat c.toNat).toNat =
        ([some (.char c)], .between) := by
      rw [toNat_asciiByte hc, utf8Step, utf8Start, if_pos hc, Char.ofNat_toNat]
    rw [utf8Read, start]
    show utf8Read surrogates (some (.char c) :: front) .between (asciiBytes cs) = _
    rw [ih fun d hd => ascii d (List.mem_cons_of_mem c hd), List.reverse_cons, List.append_assoc]
    rfl

theorem allSome_map {α : Type} (as : List α) : allSome (as.map some) = some as := by
  induction as with
  | nil => rfl
  | cons a as ih => rw [List.map_cons, allSome, ih, Option.map_some]

theorem utf8?_asciiBytes {cs : List Char} (ascii : ∀ c ∈ cs, c.toNat < 0x80) :
    utf8? (asciiBytes cs) = some (cs.map .char) := by
  have read := allSome_map (cs.map Glyph.char)
  rw [List.map_map] at read
  rw [utf8?, utf8Read_ascii ascii]
  exact read

theorem utf8Lossy_asciiBytes {cs : List Char} (ascii : ∀ c ∈ cs, c.toNat < 0x80) :
    utf8Lossy (asciiBytes cs) = cs := by
  rw [utf8Lossy, utf8Read_ascii ascii, List.reverse_nil, List.nil_append, List.map_map]
  exact List.map_id cs

end QuorumGate.Text
