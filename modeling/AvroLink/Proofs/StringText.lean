import AvroLink.Json.Reader
import AvroLink.Json.Writer

/-!
# Strings of JSON read back

The text that is written for a string is read as that string. Its characters stand for themselves
or are escaped (`writeChar_cases`), and one after another they are read back.
-/

namespace AvroLink.Json

variable {c : Char} {s t cs r : List Char}

theorem hex4?_hexDigit : ∀ n : Fin 32,
    hex4? '0' '0' (hexDigit (n / 16)) (hexDigit (n % 16)) = some n := by decide

theorem escaped_control (hc : c.toNat < 0x20) (s : List Char) :
    ∃ h, escaped ('u' :: '0' :: '0' :: hexDigit (c.toNat / 16) :: hexDigit (c.toNat % 16) :: s) =
      .ok ⟨c, s, h⟩ := by
  have hhex : hex4? '0' '0' (hexDigit (c.toNat / 16)) (hexDigit (c.toNat % 16)) = some c.toNat :=
    hex4?_hexDigit ⟨c.toNat, hc⟩
  have hlow : ¬ (0xDC00 ≤ c.toNat ∧ c.toNat ≤ 0xDFFF) := by omega
  have hplain : c.toNat < 0xD800 ∨ 0xDBFF < c.toNat := by omega
  simp only [escaped, hex4, hhex]
  refine ⟨by simp; omega, ?_⟩
  simp [bind, Except.bind, hlow, hplain, Step.map, Step.behind, Step.weaken, pure, Except.pure]

theorem writeChar_cases (c : Char) :
    (writeChar c = [c] ∧ c ≠ '"' ∧ c ≠ '\\' ∧ ¬ c.toNat < 0x20) ∨
      ∃ e, writeChar c = '\\' :: e ∧ ∀ s, ∃ h, escaped (e ++ s) = .ok ⟨c, s, h⟩ := by
  by_cases hc : c ∈ ['"', '\\', '\x08', '\x0c', '\n', '\r', '\t']
  · refine .inr ?_
    simp only [List.mem_cons, List.not_mem_nil, or_false] at hc
    rcases hc with rfl | rfl | rfl | rfl | rfl | rfl | rfl <;>
      exact ⟨_, rfl, fun s => ⟨by simp, rfl⟩⟩
  · simp only [List.mem_cons, List.not_mem_nil, or_false, not_or] at hc
    by_cases hlow : c.toNat < 0x20
    · refine .inr ⟨['u', '0', '0', hexDigit (c.toNat / 16), hexDigit (c.toNat % 16)], ?_, ?_⟩
      · simp [writeChar, hc, hlow]
      · exact escaped_control hlow
    · exact .inl ⟨by simp [writeChar, hc, hlow], hc.1, hc.2.1, hlow⟩

theorem stringChars_writeChar (c : Char) {h : r.length < s.length}
    (hs : stringChars s = .ok ⟨cs, r, h⟩) :
    ∃ h', stringChars (writeChar c ++ s) = .ok ⟨c :: cs, r, h'⟩ := by
  rcases writeChar_cases c with ⟨hw, hquote, hback, hcontrol⟩ | ⟨e, hw, he⟩
  · rw [hw, List.cons_append, List.nil_append]
    refine ⟨Nat.lt_succ_of_lt h, ?_⟩
    rw [stringChars, if_neg hquote, if_neg hback, if_neg hcontrol, hs]
    rfl
  · obtain ⟨h', he⟩ := he s
    rw [hw, List.cons_append]
    refine ⟨by simp; omega, ?_⟩
    rw [stringChars, if_neg (by decide), if_pos rfl, he]
    simp only [hs]
    rfl

theorem stringChars_flatMap (cs r : List Char) :
    ∃ h, stringChars (cs.flatMap writeChar ++ '"' :: r) = .ok ⟨cs, r, h⟩ := by
  induction cs with
  | nil =>
    rw [List.flatMap_nil, List.nil_append]
    exact ⟨Nat.lt_succ_self _, by rw [stringChars, if_pos rfl]⟩
  | cons c cs ih =>
    obtain ⟨h, ih⟩ := ih
    rw [List.flatMap_cons, List.append_assoc]
    exact stringChars_writeChar c ih

theorem value_string (depth : Nat) {v : String} {h : r.length < s.length}
    (hs : string s = .ok ⟨v, r, h⟩) :
    ∃ h', value depth ('"' :: s) = .ok ⟨.string v, r, h'⟩ := by
  refine ⟨by simp; omega, ?_⟩
  rw [value]
  split
  · next h => cases h
  · next c t h =>
    obtain ⟨rfl, rfl⟩ : c = '"' ∧ t = s := by
      cases h
      exact ⟨rfl, rfl⟩
    simp only [hs]
    rfl

/-- The text of a string is read back as that string. -/
theorem read_text_string (s : String) : read (Value.string s).text.toList = .ok (.string s) := by
  obtain ⟨h, hs⟩ := stringChars_flatMap s.toList []
  have hstring : string (s.toList.flatMap writeChar ++ ['"']) = .ok ⟨s, [], h⟩ := by
    rw [string, hs]
    simp only [bind, Except.bind, pure, Except.pure, Step.map, String.ofList_toList]
  obtain ⟨h', hv⟩ := value_string depthLimit hstring
  rw [Value.text, writeString, String.toList_ofList, List.cons_append, read, hv]
  rfl

end AvroLink.Json
