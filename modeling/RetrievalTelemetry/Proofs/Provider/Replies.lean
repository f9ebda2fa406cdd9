/-
What replies of a registry say.

A body arrives as bytes and passes through two readers.  Text in ASCII comes through the first one
as it was written, since none of its bytes looks like a mark or like half of a character.  The second
one gives up on arrays that are nested deeper than it may go, and it does so at the first bracket
too many, whatever comes behind.
-/
import Mathlib.Data.List.Basic
import RetrievalTelemetry.Provider.Registry

namespace RetrievalTelemetry

/-! ### Bytes of ASCII -/

/-- The bytes of an array one after the other are its data. -/
theorem bytes_toList (bytes : ByteArray) : bytes.toList = bytes.data.toList := by
  have hloop : ∀ (i : Nat) (done : List UInt8),
      ByteArray.toList.loop bytes i done = done.reverse ++ bytes.data.toList.drop i := by
    intro i done
    induction i, done using ByteArray.toList.loop.induct bytes with
    | case1 i done hlt ih =>
        have hlength : i < bytes.data.toList.length := by simpa using hlt
        have hget : bytes.get! i = bytes.data[i]! := by
          cases bytes
          rfl
        rw [ByteArray.toList.loop, if_pos hlt, ih, List.drop_eq_getElem_cons hlength, hget,
          getElem!_pos bytes.data i hlt]
        simp
    | case2 i done hge =>
        rw [ByteArray.toList.loop, if_neg hge, List.drop_eq_nil_of_le (by simpa using hge),
          List.append_nil]
  rw [ByteArray.toList, hloop]
  rfl

namespace Text

/-- A character of ASCII that is not the zero. -/
def IsAscii (c : Char) : Prop := 0 < c.toNat ∧ c.toNat < 128

/-- The bytes of text in ASCII are neither zero nor part of a longer character. -/
theorem bytes_ascii {s : String} (h : ∀ c ∈ s.toList, IsAscii c) :
    ∀ b ∈ s.toUTF8.toList, 0 < b.toNat ∧ b.toNat < 128 := by
  have hbytes : s.toUTF8.toList = s.toList.flatMap String.utf8EncodeChar := by
    rw [bytes_toList, String.toUTF8_eq_toByteArray, ← String.utf8Encode_toList]
    exact List.toList_data_toByteArray
  intro b hb
  rw [hbytes] at hb
  obtain ⟨c, hc, hb⟩ := List.mem_flatMap.mp hb
  obtain ⟨hpos, hlt⟩ := h c hc
  have hencode : String.utf8EncodeChar c = [c.toNat.toUInt8] := by
    unfold String.utf8EncodeChar
    exact if_pos (Nat.le_of_lt_succ hlt)
  rw [hencode, List.mem_singleton] at hb
  have hnat : b.toNat = c.toNat := by
    rw [hb]
    exact Nat.mod_eq_of_lt (by omega)
  omega

namespace Encoding

theorem detect_ascii {bytes : List UInt8} (h : ∀ b ∈ bytes, 0 < b.toNat ∧ b.toNat < 128) :
    detect bytes = (.utf8, bytes) := by
  have hne : ∀ b ∈ bytes, b ≠ 0 ∧ b ≠ 0xFF ∧ b ≠ 0xFE ∧ b ≠ 0xEF := by
    intro b hb
    obtain ⟨hpos, hlt⟩ := h b hb
    refine ⟨?_, ?_, ?_, ?_⟩ <;> rintro rfl <;> simp at hpos hlt
  have hzeros : ofZeros bytes = .utf8 := by
    unfold ofZeros
    split
    · have ha := hne _ List.mem_cons_self
      have hb := hne _ (List.mem_cons_of_mem _ List.mem_cons_self)
      rw [if_neg ha.1, if_neg hb.1]
    · have ha := hne _ List.mem_cons_self
      have hb := hne _ (List.mem_cons_of_mem _ List.mem_cons_self)
      rw [if_neg ha.1, if_neg hb.1]
    · rfl
  unfold detect
  split
  · exact absurd rfl (hne _ List.mem_cons_self).1
  · exact absurd rfl (hne _ List.mem_cons_self).2.1
  · exact absurd rfl (hne _ List.mem_cons_self).2.2.1
  · exact absurd rfl (hne _ List.mem_cons_self).2.1
  · exact absurd rfl (hne _ List.mem_cons_self).2.2.2
  · rw [hzeros]

theorem withoutHalves_ascii {bytes : List UInt8} (h : ∀ b ∈ bytes, 0 < b.toNat ∧ b.toNat < 128) :
    withoutHalves bytes = bytes := by
  induction bytes using withoutHalves.induct with
  | case1 a b c rest hhalf ih =>
      -- Half of a pair would begin with a byte beyond ASCII.
      have hlt := (h a List.mem_cons_self).2
      have ha : a = 0xED := by simp_all
      rw [ha] at hlt
      exact absurd hlt (by decide)
  | case2 a b c rest hwhole ih =>
      rw [withoutHalves, if_neg hwhole, ih fun x hx => h x (List.mem_cons_of_mem _ hx)]
  | case3 bytes hshort =>
      unfold withoutHalves
      split
      · exact absurd rfl (hshort _ _ _ _)
      · rfl

end Encoding

/-- Text in ASCII is read as it was written. -/
theorem ofBytes?_ascii {s : String} (h : ∀ c ∈ s.toList, IsAscii c) :
    ofBytes? s.toUTF8 = some s := by
  have hbytes := bytes_ascii h
  unfold ofBytes?
  rw [Encoding.detect_ascii hbytes]
  show String.fromUTF8? ⟨(Encoding.withoutHalves s.toUTF8.toList).toArray⟩ = some s
  rw [Encoding.withoutHalves_ascii hbytes, bytes_toList, String.toUTF8_eq_toByteArray]
  exact dif_pos s.isValidUTF8

end Text

/-! ### Nested arrays -/

namespace Json

/-- A text of so many arrays, each in the one before. -/
def nested (depth : Nat) : String :=
  String.ofList (List.replicate depth '[' ++ List.replicate depth ']')

theorem skipWhite_bracket (rest : List Char) : skipWhite ('[' :: rest) = '[' :: rest := rfl

/-- The reader gives up on one bracket more than it may go deep.  For each level it needs a unit of
fuel for the value and one for the item. -/
theorem value_tooDeep (dialect : Dialect) (rest : List Char) (depth : Nat) :
    ∀ fuel, 2 * depth < fuel →
      value dialect fuel depth (List.replicate (depth + 1) '[' ++ rest) = .error .tooDeep := by
  induction depth with
  | zero =>
      intro fuel hfuel
      obtain ⟨fuel, rfl⟩ : ∃ n, fuel = n + 1 := ⟨fuel - 1, by omega⟩
      rfl
  | succ depth ih =>
      intro fuel hfuel
      obtain ⟨fuel, rfl⟩ : ∃ n, fuel = n + 2 := ⟨fuel - 2, by omega⟩
      have hinner := ih fuel (by omega)
      rw [List.replicate_succ, List.cons_append] at hinner
      rw [List.replicate_succ, List.replicate_succ, List.cons_append, List.cons_append, value,
        skipWhite_bracket]
      show within Json.array (items dialect (fuel + 1) depth _) = _
      rw [items, hinner]
      rfl

/-- Arrays that are nested deeper than the reader may go are not read. -/
theorem read_nested {dialect : Dialect} {depth : Nat} (h : dialect.depth < depth) :
    read dialect (nested depth) = .error .tooDeep := by
  have hchars : (nested depth).toList = List.replicate (dialect.depth + 1) '[' ++
      (List.replicate (depth - (dialect.depth + 1)) '[' ++ List.replicate depth ']') := by
    unfold nested
    rw [String.toList_ofList, ← List.append_assoc, List.replicate_append_replicate,
      Nat.add_sub_cancel' h]
  have hlength : dialect.depth ≤ (nested depth).toList.length := by
    rw [hchars, List.length_append, List.length_replicate]
    omega
  unfold read readChars
  rw [hchars] at hlength ⊢
  rw [value_tooDeep dialect _ dialect.depth _ (by omega)]

end Json

namespace Reply

/-- What a reply says whose body is text in ASCII. -/
theorem names?_ascii {body : String} (h : ∀ c ∈ body.toList, Text.IsAscii c) :
    (response 200 body.toUTF8).names? =
      match Json.read .tolerant body with
      | .ok (.array items) => .ok (texts? items)
      | .error .tooDeep => .error .tooDeep
      | _ => .ok none := by
  have hbody : Text.ofBytes? body.toUTF8 = some body := Text.ofBytes?_ascii h
  simp only [names?, hbody, Option.map_some, Nat.le_refl, Nat.reduceLT, and_self, if_true]
  cases Json.read .tolerant body with
  | error e => cases e <;> rfl
  | ok json => cases json <;> rfl

/-- A reply that lists one name. -/
theorem names?_one : (response 200 "[\"f01\"]".toUTF8).names? = .ok (some ["f01"]) := by
  have hread : Json.read .tolerant "[\"f01\"]" = .ok (.array [.string "f01"]) := by
    have hchars : "[\"f01\"]".toList = ['[', '"', 'f', '0', '1', '"', ']'] := by decide
    unfold Json.read
    simp only [hchars]
    rfl
  have hascii : ∀ c ∈ "[\"f01\"]".toList, Text.IsAscii c := by
    simp [Text.IsAscii]
  rw [names?_ascii hascii, hread]
  rfl

/-- A reply whose body is nested too deep stops whoever reads it. -/
theorem names?_nested {depth : Nat} (h : Json.Dialect.tolerant.depth < depth) :
    (response 200 (Json.nested depth).toUTF8).names? = .error .tooDeep := by
  have hascii : ∀ c ∈ (Json.nested depth).toList, Text.IsAscii c := by
    intro c hc
    unfold Json.nested at hc
    rw [String.toList_ofList] at hc
    rcases List.mem_append.mp hc with hc | hc
    · rw [List.eq_of_mem_replicate hc]
      exact ⟨by decide, by decide⟩
    · rw [List.eq_of_mem_replicate hc]
      exact ⟨by decide, by decide⟩
  rw [names?_ascii hascii, Json.read_nested h]

end Reply

end RetrievalTelemetry
