import QuerySwarm.Proofs.Text.Utf8

/-!
# The order of texts and of their bytes

Texts are ordered by their characters, from the first on which they differ. UTF-8 keeps this order: a
greater character has greater bytes, whatever follows (`Utf8.encodeChar_append_lt`), so two texts are
in order exactly if their bytes are (`bytesOf_lt_iff`).
-/

namespace QuerySwarm

namespace Utf8

theorem ofNat_lt_ofNat {m n : Nat} (hn : n < 256) (h : m < n) : UInt8.ofNat m < UInt8.ofNat n := by
  rw [UInt8.lt_iff_toNat_lt, toNat_ofNat_byte m (by omega), toNat_ofNat_byte n hn]
  exact h

/-- Where the first bytes of two lists are in order, so are the lists; where they are the same, the
rest decides. -/
theorem cons_lt_cons_of_le {m n : Nat} {x y : Bytes} (hn : n < 256) (hle : m ≤ n)
    (h : m = n → x < y) : UInt8.ofNat m :: x < UInt8.ofNat n :: y := by
  rw [List.cons_lt_cons_iff]
  rcases Nat.lt_or_eq_of_le hle with hlt | rfl
  · exact .inl (ofNat_lt_ofNat hn hlt)
  · exact .inr ⟨rfl, h rfl⟩

/-- A greater character has greater bytes, whatever follows. -/
theorem encodeChar_append_lt {c d : Char} (h : c < d) (x y : Bytes) :
    encodeChar c ++ x < encodeChar d ++ y := by
  have hlt : c.toNat < d.toNat := h
  have hc := char_range c
  have hd := char_range d
  unfold encodeChar
  generalize c.toNat = m at *
  generalize d.toNat = n at *
  dsimp only
  -- the first byte tells how many there are, and of as many the first that differs decides
  split
  · split
    · exact cons_lt_cons_of_le (by omega) (by omega) (by omega)
    · split
      · exact cons_lt_cons_of_le (by omega) (by omega) (by omega)
      · split <;> exact cons_lt_cons_of_le (by omega) (by omega) (by omega)
  · rw [if_neg (by omega : ¬n < 0x80)]
    split
    · split
      · exact cons_lt_cons_of_le (by omega) (by omega) fun _ =>
          cons_lt_cons_of_le (by omega) (by omega) (by omega)
      · split <;> exact cons_lt_cons_of_le (by omega) (by omega) (by omega)
    · rw [if_neg (by omega : ¬n < 0x800)]
      split
      · split
        · exact cons_lt_cons_of_le (by omega) (by omega) fun _ =>
            cons_lt_cons_of_le (by omega) (by omega) fun _ =>
              cons_lt_cons_of_le (by omega) (by omega) (by omega)
        · exact cons_lt_cons_of_le (by omega) (by omega) (by omega)
      · rw [if_neg (by omega : ¬n < 0x10000)]
        exact cons_lt_cons_of_le (by omega) (by omega) fun _ =>
          cons_lt_cons_of_le (by omega) (by omega) fun _ =>
            cons_lt_cons_of_le (by omega) (by omega) fun _ =>
              cons_lt_cons_of_le (by omega) (by omega) (by omega)

end Utf8

/-- The bytes of texts keep their order. -/
theorem bytesOf_lt_bytesOf {s t : String} (h : s < t) : bytesOf s < bytesOf t := by
  have hlt : s.toList < t.toList := String.lt_iff.1 h
  show Utf8.encode s.toList < Utf8.encode t.toList
  generalize s.toList = cs at hlt ⊢
  generalize t.toList = ds at hlt ⊢
  induction cs generalizing ds with
  | nil =>
    cases ds with
    | nil => exact absurd hlt (List.lt_irrefl [])
    | cons d ds =>
      obtain ⟨b, bs, hb, -⟩ := Utf8.decodeStep_encodeChar d []
      rw [Utf8.encode_cons, hb]
      exact List.nil_lt_cons _ _
  | cons c cs ih =>
    cases ds with
    | nil => exact absurd hlt (List.not_lt_nil _)
    | cons d ds =>
      rw [Utf8.encode_cons, Utf8.encode_cons]
      rcases List.cons_lt_cons_iff.1 hlt with hchar | ⟨rfl, hrest⟩
      · exact Utf8.encodeChar_append_lt hchar _ _
      · exact List.append_left_lt (ih _ hrest)

/-- Two texts are in order exactly if their bytes are. -/
theorem bytesOf_lt_iff {s t : String} : bytesOf s < bytesOf t ↔ s < t := by
  refine ⟨fun h => ?_, bytesOf_lt_bytesOf⟩
  rcases Std.lt_trichotomy s t with hlt | rfl | hgt
  · exact hlt
  · exact absurd h (List.lt_irrefl _)
  · exact absurd (List.lt_trans h (bytesOf_lt_bytesOf hgt)) (List.lt_irrefl _)

end QuerySwarm
