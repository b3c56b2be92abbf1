import QuerySwarm.Url.Parser

/-!
# Pairs in a query

A query in form encoding is pieces with ampersands in between, each a name and a value with the first
equals sign in between. Bytes that are encoded have neither sign (`of_mem_formByte`), so a pair that
was written is the one that is read, whatever its name and its value are (`formPairs_formPair`).
-/

namespace QuerySwarm

/-- The text of bytes that were well-formed is what was written. -/
theorem Utf8.decodeLossy_encode (cs : List Char) : decodeLossy (encode cs) = cs := by
  have hpieces := pieces_encode_append cs []
  have hnil : pieces [] = [] := by
    unfold pieces
    rfl
  rw [List.append_nil, hnil, List.append_nil] at hpieces
  rw [decodeLossy, hpieces, List.map_map]
  exact List.map_id cs

namespace Url

/-! ### Reading -/

/-- The text of a part of a form: plus signs are spaces, then escapes are read, and what is no text
is replaced. -/
def formText (cs : List Char) : String :=
  String.ofList (Utf8.decodeLossy (decode (cs.map fun c => if c = '+' then ' ' else c)))

/-- The name and the value in a piece: what is before the first equals sign, and what is after it. -/
def pairOf (piece : List Char) : String × String :=
  (formText (piece.takeWhile (· != '=')), formText ((piece.dropWhile (· != '=')).drop 1))

/-- The pairs that a query is decoded to. Empty pieces are passed over. -/
def formPairs (query : List Char) : List (String × String) :=
  ((query.splitOn '&').filter fun piece => !piece.isEmpty).map pairOf

/-! ### What is written -/

theorem hexDigit_ne {n : Nat} (h : n < 16) :
    hexDigit n ≠ '&' ∧ hexDigit n ≠ '=' ∧ hexDigit n ≠ '#' := by
  have hall : ∀ m ∈ List.range 16, hexDigit m ≠ '&' ∧ hexDigit m ≠ '=' ∧ hexDigit m ≠ '#' := by
    decide
  exact hall n (List.mem_range.2 h)

/-- The characters that a byte is written with are no marks of a query. -/
theorem of_mem_formByte {b : UInt8} {c : Char} (h : c ∈ formByte b) :
    c ≠ '&' ∧ c ≠ '=' ∧ c ≠ '#' := by
  unfold formByte at h
  split at h
  · obtain rfl := List.mem_singleton.1 h
    decide
  · split at h
    · next hplain =>
      obtain rfl := List.mem_singleton.1 h
      simp only [isFormPlain, decide_eq_true_eq] at hplain
      have hvalue : (Char.ofNat b.toNat).toNat = b.toNat := toNat_ofNat (by omega)
      have hne : ∀ mark : Char, mark.toNat ≠ b.toNat → Char.ofNat b.toNat ≠ mark := by
        rintro _ hmark rfl
        exact hmark hvalue
      exact ⟨hne '&' (show 38 ≠ b.toNat by omega), hne '=' (show 61 ≠ b.toNat by omega),
        hne '#' (show 35 ≠ b.toNat by omega)⟩
    · have hb : b.toNat < 256 := b.toNat_lt
      simp only [escape, List.mem_cons, List.not_mem_nil, or_false] at h
      rcases h with rfl | rfl | rfl
      · decide
      · exact hexDigit_ne (by omega)
      · exact hexDigit_ne (by omega)

theorem of_mem_formEncode {cs : List Char} {c : Char} (h : c ∈ formEncode cs) :
    c ≠ '&' ∧ c ≠ '=' ∧ c ≠ '#' := by
  obtain ⟨b, -, hc⟩ := List.mem_flatMap.1 h
  exact of_mem_formByte hc

theorem of_mem_formPair {name value : String} {c : Char} (h : c ∈ formPair name value) :
    c ≠ '&' ∧ c ≠ '#' := by
  rcases List.mem_append.1 h with hname | hvalue
  · exact ⟨(of_mem_formEncode hname).1, (of_mem_formEncode hname).2.2⟩
  · rcases List.mem_cons.1 hvalue with rfl | hvalue
    · decide
    · exact ⟨(of_mem_formEncode hvalue).1, (of_mem_formEncode hvalue).2.2⟩

theorem formText_formEncode (s : String) : formText (formEncode s.toList) = s := by
  rw [formText, formEncode, decode_formBytes, Utf8.decodeLossy_encode, String.ofList_toList]

theorem pairOf_formPair (name value : String) : pairOf (formPair name value) = (name, value) := by
  have hname : ∀ c ∈ formEncode name.toList, (c != '=') = true := fun c hc =>
    bne_iff_ne.2 (of_mem_formEncode hc).2.1
  have hbefore : (formPair name value).takeWhile (· != '=') = formEncode name.toList := by
    rw [formPair, List.takeWhile_append_of_pos hname]
    exact List.append_nil _
  have hafter : (formPair name value).dropWhile (· != '=') = '=' :: formEncode value.toList := by
    rw [formPair, List.dropWhile_append_of_pos hname]
    rfl
  rw [pairOf, hbefore, hafter, List.drop_one, List.tail_cons, formText_formEncode,
    formText_formEncode]

/-- A pair that was written is the one pair that is read. -/
theorem formPairs_formPair (name value : String) :
    formPairs (formPair name value) = [(name, value)] := by
  have hsplit : (formPair name value).splitOn '&' = [formPair name value] := by
    refine List.splitOnP_eq_singleton fun c hc => ?_
    exact beq_eq_false_iff_ne.2 (of_mem_formPair hc).1
  have hsome : (formPair name value).isEmpty = false := by simp [formPair]
  rw [formPairs, hsplit, List.filter_cons_of_pos (by rw [hsome]; rfl), List.filter_nil, List.map_cons,
    List.map_nil, pairOf_formPair]

/-! ### URLs with a query -/

/-- The text of a URL tells which query it has. -/
theorem query_of_text {u : Url} {query query' : List Char}
    (h : ({ u with query := some query } : Url).text = ({ u with query := some query' } : Url).text) :
    query = query' := by
  have hchars : ({ u with query := some query } : Url).chars =
      ({ u with query := some query' } : Url).chars := String.ofList_injective h
  have hrest : u.authorityChars ++ u.path.chars ++ '?' :: query ++ marked '#' u.fragment =
      u.authorityChars ++ u.path.chars ++ '?' :: query' ++ marked '#' u.fragment :=
    List.tail_eq_of_cons_eq (List.append_cancel_left hchars)
  have hquery := List.append_cancel_left (List.append_cancel_right hrest)
  exact List.tail_eq_of_cons_eq hquery

/-- URLs that are told apart by nothing but a pair have the same text only if the pair is the same. -/
theorem value_of_text {u : Url} {name value value' : String}
    (h : ({ u with query := some (formPair name value) } : Url).text =
      ({ u with query := some (formPair name value') } : Url).text) : value = value' := by
  have hpairs := congrArg formPairs (query_of_text h)
  rw [formPairs_formPair, formPairs_formPair] at hpairs
  cases hpairs
  rfl

end Url

end QuerySwarm
