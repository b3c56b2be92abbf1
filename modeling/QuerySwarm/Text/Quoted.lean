import QuerySwarm.Unicode.Printable
import QuerySwarm.Binary64.Decimal

/-!
# Quoted text in messages

Messages quote text between double quotes. A quote, a backslash and the common controls have short
escapes, and every other character that cannot be shown is written by its number.

Main statement: printable text that holds neither a quote nor a backslash is quoted as it is
(`quoted_of_plain`).
-/

namespace QuerySwarm.Text

/-- The digits of a number in base 16, in lower case. -/
def hexDigits (n : Nat) : List Char := Nat.toDigits 16 n

def quotedChar (c : Char) : List Char :=
  if c = '"' then ['\\', '"']
  else if c = '\\' then ['\\', '\\']
  else if c = '\n' then ['\\', 'n']
  else if c = '\r' then ['\\', 'r']
  else if c = '\t' then ['\\', 't']
  else if c.toNat = 0 then ['\\', '0']
  else if Unicode.isPrintable c then [c]
  else '\\' :: 'u' :: Char.ofNat 0x7B :: (hexDigits c.toNat ++ [Char.ofNat 0x7D])

def quoted (s : String) : String :=
  String.ofList ('"' :: (s.toList.flatMap quotedChar ++ ['"']))

/-- Whether quoting leaves a character as it is. -/
def isPlain (c : Char) : Bool := Unicode.isPrintable c && c != '"' && c != '\\'

theorem quotedChar_of_plain {c : Char} (h : isPlain c = true) : quotedChar c = [c] := by
  simp only [isPlain, Bool.and_eq_true, bne_iff_ne, ne_eq] at h
  obtain ⟨⟨hp, hq⟩, hb⟩ := h
  have control : ∀ d : Char, d.toNat < 0x20 → c ≠ d := by
    rintro d hd rfl
    exact absurd ((Unicode.isPrintable_ascii (by omega)).1 hp) (by omega)
  have hzero : c.toNat ≠ 0 := by
    intro h0
    exact absurd ((Unicode.isPrintable_ascii (by omega)).1 hp) (by omega)
  simp [quotedChar, hq, hb, hp, hzero, control '\n' (by decide), control '\r' (by decide),
    control '\t' (by decide)]

theorem quoted_of_plain {s : String} (h : ∀ c ∈ s.toList, isPlain c = true) :
    quoted s = String.ofList ('"' :: (s.toList ++ ['"'])) := by
  have : s.toList.flatMap quotedChar = s.toList := by
    generalize s.toList = cs at *
    induction cs with
    | nil => rfl
    | cons c cs ih =>
      simp only [List.flatMap_cons]
      rw [quotedChar_of_plain (h c (by simp)), ih (fun d hd => h d (by simp [hd]))]
      rfl
  rw [quoted, this]

end QuerySwarm.Text
