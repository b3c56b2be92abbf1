import Mathlib.Data.List.Forall2
import QuerySwarm.Proofs.Json.Strings

/-!
# The grammar of JSON text

A tree is a JSON text up to its blanks and the spelling of its strings: members keep their order, a
key comes as often as it is given, and numbers stand as they are written. `Written` is the grammar;
how the strings are spelled is its parameter, since a value that is skipped may hold strings that
cannot be read. What stands in brackets is a list of rules with commas between them (`Listed`).

* `Listed.align`: two ways to read what stands in brackets agree item by item.
* `Written.unique`: the grammar is unambiguous.
* `Written.mono`: what is written strictly is written loosely.
-/

namespace QuerySwarm.Json

open Cursor

/-! ### Trees -/

/-- What a JSON text says. -/
inductive Tree where
  | null
  | boolean (value : Bool)
  | number (n : Numeral)
  | string (s : String)
  | array (elements : List Tree)
  | object (members : List (String × Tree))

/-- What holds of a tree where it holds of the trees in it holds of every tree. -/
@[induction_eliminator]
theorem Tree.induction {motive : Tree → Prop} (null : motive .null)
    (boolean : ∀ value, motive (.boolean value)) (number : ∀ n, motive (.number n))
    (string : ∀ s, motive (.string s))
    (array : ∀ elements, (∀ t ∈ elements, motive t) → motive (.array elements))
    (object : ∀ members, (∀ m ∈ members, motive m.2) → motive (.object members)) :
    ∀ t, motive t :=
  @Tree.rec motive (fun elements => ∀ t ∈ elements, motive t)
    (fun members => ∀ m ∈ members, motive m.2) (fun m => motive m.2)
    null boolean number string array object
    (fun _ ht => absurd ht List.not_mem_nil)
    (fun _ _ hfirst hrest => List.forall_mem_cons.2 ⟨hfirst, hrest⟩)
    (fun _ hm => absurd hm List.not_mem_nil)
    (fun _ _ hfirst hrest => List.forall_mem_cons.2 ⟨hfirst, hrest⟩)
    fun _ _ ht => ht

/-! ### What stands in brackets -/

def Bracket.opening : Bracket → UInt8
  | .list => 0x5B
  | .object => 0x7B

/-- Where an item begins: at no blank and no closing bracket. -/
def Begun (text : Bytes) : Prop :=
  ∃ b tail, text = b :: tail ∧ isBlank b = false ∧ b ≠ 0x5D ∧ b ≠ 0x7D

theorem Begun.ne_closing {text after : Bytes} (h : Begun text) (bracket : Bracket) :
    text ≠ bracket.closing :: after := by
  obtain ⟨b, tail, rfl, -, hlist, hobject⟩ := h
  rintro ⟨⟩
  cases bracket
  · exact hlist rfl
  · exact hobject rfl

theorem Blanks.unique {before : Bytes} {b b' : UInt8} {tail tail' : Bytes}
    (h : Blanks before (b :: tail)) (h' : Blanks before (b' :: tail')) (hb : isBlank b = false)
    (hb' : isBlank b' = false) : b :: tail = b' :: tail' := by
  have heq := h.dropWhile.symm.trans h'.dropWhile
  rwa [List.dropWhile_cons_of_neg (by rw [hb]; decide),
    List.dropWhile_cons_of_neg (by rw [hb']; decide)] at heq

theorem Bracket.isBlank_closing (bracket : Bracket) : isBlank bracket.closing = false := by
  cases bracket <;> rfl

/-- What stands before an item: blanks, and a comma where it is not the first. -/
def Separated (first : Bool) : Rule := fun before after =>
  if first then Blanks before after else ∃ mid, Blanks before (0x2C :: mid) ∧ Blanks mid after

/-- Items up to the closing bracket. -/
def Listed (bracket : Bracket) : (first : Bool) → List Rule → Rule
  | _, [] => fun before after => Blanks before (bracket.closing :: after)
  | first, item :: items => fun before after => ∃ start stop,
      Separated first before start ∧ item start stop ∧ Listed bracket false items stop after

/-- Items in brackets. -/
def Enclosed (bracket : Bracket) (items : List Rule) : Rule := fun before after =>
  ∃ mid, before = bracket.opening :: mid ∧ Listed bracket true items mid after

theorem Separated.length_le {first : Bool} {before after : Bytes} (h : Separated first before after) :
    after.length ≤ before.length := by
  cases first with
  | true => exact Blanks.length_le h
  | false =>
    obtain ⟨mid, hcomma, hblanks⟩ := h
    have hbefore := hcomma.length_le
    have hmid := hblanks.length_le
    rw [List.length_cons] at hbefore
    omega

/-- Further blanks may come before an item. -/
theorem Separated.blanks {first : Bool} {before mid after : Bytes}
    (h : Separated first before mid) (blanks : Blanks mid after) : Separated first before after := by
  cases first with
  | true => exact Blanks.trans h blanks
  | false =>
    obtain ⟨next, hcomma, hmid⟩ := h
    exact ⟨next, hcomma, hmid.trans blanks⟩

theorem Separated.unique {first : Bool} {before start start' : Bytes}
    (h : Separated first before start) (h' : Separated first before start') (begun : Begun start)
    (begun' : Begun start') : start = start' := by
  obtain ⟨b, tail, rfl, hb, -⟩ := begun
  obtain ⟨b', tail', rfl, hb', -⟩ := begun'
  cases first with
  | true => exact Blanks.unique h h' hb hb'
  | false =>
    obtain ⟨mid, hcomma, hblanks⟩ := h
    obtain ⟨mid', hcomma', hblanks'⟩ := h'
    cases hcomma.unique hcomma' (by decide) (by decide)
    exact hblanks.unique hblanks' hb hb'

/-- Where an item can begin, the list does not end. -/
theorem Separated.not_closed {first : Bool} {before start after : Bytes} {bracket : Bracket}
    (h : Separated first before start) (begun : Begun start)
    (closed : Blanks before (bracket.closing :: after)) : False := by
  have hclosing := bracket.isBlank_closing
  cases first with
  | true =>
    obtain ⟨b, tail, rfl, hb, -⟩ := id begun
    exact begun.ne_closing bracket (Blanks.unique h closed hb hclosing)
  | false =>
    obtain ⟨mid, hcomma, -⟩ := h
    have heq := hcomma.unique closed (by decide) hclosing
    cases bracket <;> cases heq

section Listed

variable {bracket : Bracket} {first : Bool} {before after : Bytes}

/-- What stands before a bracket or a comma is not part of a number. -/
theorem Listed.ends {items : List Rule} (h : Listed bracket false items before after) :
    Ends before := by
  cases items with
  | nil =>
    refine Blanks.ends h ?_
    cases bracket <;> exact ends_cons (by decide) (by decide)
  | cons item items =>
    obtain ⟨start, stop, ⟨mid, hcomma, -⟩, -⟩ := h
    exact hcomma.ends (ends_cons (by decide) (by decide))

theorem Listed.length_lt {items : List Rule}
    (shrinks : ∀ item ∈ items, ∀ start stop, item start stop → stop.length < start.length)
    (h : Listed bracket first items before after) : after.length < before.length := by
  induction items generalizing first before with
  | nil => exact Blanks.length_le h
  | cons item items ih =>
    obtain ⟨start, stop, hseparated, hitem, hrest⟩ := h
    have hstart := hseparated.length_le
    have hstop := shrinks item List.mem_cons_self start stop hitem
    have hafter := ih (fun other hother => shrinks other (List.mem_cons_of_mem _ hother)) hrest
    omega

/-- Every item is written somewhere. -/
theorem Listed.exists_item {items : List Rule} (h : Listed bracket first items before after)
    {item : Rule} (hitem : item ∈ items) : ∃ start stop, item start stop := by
  induction items generalizing first before with
  | nil => cases hitem
  | cons other items ih =>
    obtain ⟨start, stop, -, hother, hrest⟩ := h
    rcases List.mem_cons.1 hitem with rfl | hmem
    · exact ⟨start, stop, hother⟩
    · exact ih hrest hmem

/-- Items may be replaced by others that allow as much. -/
theorem Listed.mono {items items' : List Rule}
    (allowed : List.Forall₂ (fun item item' => ∀ start stop, item start stop → item' start stop)
      items items') (h : Listed bracket first items before after) :
    Listed bracket first items' before after := by
  induction allowed generalizing first before with
  | nil => exact h
  | cons hitem _ ih =>
    obtain ⟨start, stop, hseparated, hstart, hrest⟩ := h
    exact ⟨start, stop, hseparated, hitem start stop hstart, ih hrest⟩

/-- Two ways to read what stands in brackets agree item by item, if those for one item do. -/
theorem Listed.align {ι κ : Type} {rule : ι → Rule} {rule' : κ → Rule} {R : ι → κ → Prop}
    {is : List ι} {ks : List κ} {after' : Bytes}
    (begun : ∀ i ∈ is, ∀ start stop, rule i start stop → Begun start)
    (begun' : ∀ k ∈ ks, ∀ start stop, rule' k start stop → Begun start)
    (agree : ∀ i ∈ is, ∀ k ∈ ks, ∀ start stop stop', rule i start stop → rule' k start stop' →
      Ends stop → Ends stop' → stop = stop' ∧ R i k)
    (h : Listed bracket first (is.map rule) before after)
    (h' : Listed bracket first (ks.map rule') before after') :
    List.Forall₂ R is ks ∧ after = after' := by
  induction is generalizing ks first before with
  | nil =>
    cases ks with
    | nil =>
      have heq := Blanks.unique h h' bracket.isBlank_closing bracket.isBlank_closing
      exact ⟨.nil, (List.cons.inj heq).2⟩
    | cons k ks =>
      obtain ⟨start, stop, hseparated, hitem, -⟩ := h'
      exact (hseparated.not_closed (begun' k List.mem_cons_self start stop hitem) h).elim
  | cons i is ih =>
    obtain ⟨start, stop, hseparated, hitem, hrest⟩ := h
    have hbegun := begun i List.mem_cons_self start stop hitem
    cases ks with
    | nil => exact (hseparated.not_closed hbegun h').elim
    | cons k ks =>
      obtain ⟨start', stop', hseparated', hitem', hrest'⟩ := h'
      -- what separates two items is found in one way only, as long as an item begins with no blank
      have hbegun' := begun' k List.mem_cons_self start' stop' hitem'
      obtain rfl := hseparated.unique hseparated' hbegun hbegun'
      obtain ⟨rfl, hR⟩ := agree i List.mem_cons_self k List.mem_cons_self _ _ _ hitem hitem'
        hrest.ends hrest'.ends
      obtain ⟨hall, hafter⟩ := ih
        (fun other hother => begun other (List.mem_cons_of_mem _ hother))
        (fun other hother => begun' other (List.mem_cons_of_mem _ hother))
        (fun other hother other' hother' => agree other (List.mem_cons_of_mem _ hother) other'
          (List.mem_cons_of_mem _ hother')) hrest hrest'
      exact ⟨.cons hR hall, hafter⟩

end Listed

/-! ### The grammar -/

section Grammar

variable (spells : String → Rule)

/-- A string between its quotes. -/
def Quoted (s : String) : Rule := fun before after =>
  ∃ mid, before = 0x22 :: mid ∧ spells s mid after

/-- A member of an object, by its key and by what its value may be. -/
def Member (key : String) (value : Rule) : Rule := fun before after =>
  ∃ stop next start, Quoted spells key before stop ∧ Blanks stop (0x3A :: next) ∧
    Blanks next start ∧ value start after

/-- The texts of a word. -/
def Word (word : Bytes) : Rule := fun before after => before = word ++ after

mutual

/-- The texts of a tree, if this is how its strings are spelled. -/
def Written : Tree → Rule
  | .null => Word (0x6E :: nullRest)
  | .boolean true => Word (0x74 :: trueRest)
  | .boolean false => Word (0x66 :: falseRest)
  | .number n => n.Written
  | .string s => Quoted spells s
  | .array elements => Enclosed .list (elementRules elements)
  | .object members => Enclosed .object (memberRules members)

def elementRules : List Tree → List Rule
  | [] => []
  | t :: ts => Written t :: elementRules ts

def memberRules : List (String × Tree) → List Rule
  | [] => []
  | (key, t) :: ms => Member spells key (Written t) :: memberRules ms

end

theorem elementRules_eq_map (elements : List Tree) :
    elementRules spells elements = elements.map (Written spells) := by
  induction elements with
  | nil => rfl
  | cons t ts ih => rw [elementRules, ih, List.map_cons]

theorem memberRules_eq_map (members : List (String × Tree)) :
    memberRules spells members = members.map fun m => Member spells m.1 (Written spells m.2) := by
  induction members with
  | nil => rfl
  | cons m ms ih => rw [memberRules, ih, List.map_cons]

end Grammar

/-- Strings spelled by their characters, as they are read. -/
def strictly (s : String) : Rule := Characters s.toList

/-- Strings spelled in any way that can be skipped. -/
def loosely (_ : String) : Rule := Skimmed

/-- A text is a document of a tree if this is written in it, between blanks. -/
def IsDocument (t : Tree) (text : Bytes) : Prop :=
  ∃ start stop, Blanks text start ∧ Written strictly t start stop ∧ Blanks stop []

/-! ### The first byte -/

/-- The kinds of values that a first byte tells apart. -/
inductive Kind where
  | null
  | boolean (value : Bool)
  | number
  | string
  | array
  | object

def Tree.kind : Tree → Kind
  | .null => .null
  | .boolean value => .boolean value
  | .number _ => .number
  | .string _ => .string
  | .array _ => .array
  | .object _ => .object

/-- The kind of value that begins with a byte. -/
def kindAt? (b : UInt8) : Option Kind :=
  if b = 0x6E then some .null
  else if b = 0x74 then some (.boolean true)
  else if b = 0x66 then some (.boolean false)
  else if b = 0x2D then some .number
  else if isDigit b then some .number
  else if b = 0x22 then some .string
  else if b = 0x5B then some .array
  else if b = 0x7B then some .object
  else none

theorem kindAt?_of_isDigit {b : UInt8} (h : isDigit b = true) : kindAt? b = some .number := by
  have hne : ∀ other, isDigit other = false → b ≠ other := fun _ => ne_of_isDigit_eq_false h
  unfold kindAt?
  rw [if_neg (hne _ (by decide)), if_neg (hne _ (by decide)), if_neg (hne _ (by decide)),
    if_neg (hne _ (by decide)), if_pos h]

theorem begun_of_kindAt? {b : UInt8} {kind : Kind} {tail : Bytes} (h : kindAt? b = some kind) :
    Begun (b :: tail) := by
  have hne : ∀ other, kindAt? other = none → b ≠ other := by
    rintro other hother rfl
    rw [hother] at h
    cases h
  refine ⟨b, tail, rfl, ?_, hne _ rfl, hne _ rfl⟩
  simp [isBlank, hne 0x20 rfl, hne 0x09 rfl, hne 0x0A rfl, hne 0x0D rfl]

/-- A value begins with a byte of its kind. -/
theorem Written.exists_first {spells : String → Rule} {t : Tree} {before after : Bytes}
    (h : Written spells t before after) :
    ∃ b tail, before = b :: tail ∧ kindAt? b = some t.kind := by
  cases t with
  | null => exact ⟨_, _, h, rfl⟩
  | boolean value => cases value <;> exact ⟨_, _, h, rfl⟩
  | number n =>
    have hnumber : n.Written before after := h
    unfold Numeral.Written at hnumber
    split at hnumber
    · obtain ⟨mid, rfl, -⟩ := hnumber
      exact ⟨_, _, rfl, rfl⟩
    · obtain ⟨b, tail, rfl, hb⟩ := hnumber.exists_first
      exact ⟨b, tail, rfl, kindAt?_of_isDigit hb⟩
  | string s =>
    obtain ⟨mid, rfl, -⟩ := h
    exact ⟨_, _, rfl, rfl⟩
  | array elements =>
    obtain ⟨mid, rfl, -⟩ := h
    exact ⟨_, _, rfl, rfl⟩
  | object members =>
    obtain ⟨mid, rfl, -⟩ := h
    exact ⟨_, _, rfl, rfl⟩

theorem Written.begun {spells : String → Rule} {t : Tree} {before after : Bytes}
    (h : Written spells t before after) : Begun before := by
  obtain ⟨b, tail, rfl, hb⟩ := h.exists_first
  exact begun_of_kindAt? hb

theorem Written.kind_eq {spells spells' : String → Rule} {t t' : Tree} {before after after' : Bytes}
    (h : Written spells t before after) (h' : Written spells' t' before after') :
    t.kind = t'.kind := by
  obtain ⟨b, tail, rfl, hb⟩ := h.exists_first
  obtain ⟨b', tail', heq, hb'⟩ := h'.exists_first
  cases heq
  exact Option.some.inj (hb.symm.trans hb')

section Members

variable {spells : String → Rule} {key : String} {value : Rule} {before after : Bytes}

theorem Member.begun (h : Member spells key value before after) : Begun before := by
  obtain ⟨stop, next, start, ⟨mid, rfl, -⟩, -⟩ := h
  exact ⟨0x22, mid, rfl, by decide, by decide, by decide⟩

theorem Member.length_lt
    (string : ∀ s start stop, spells s start stop → stop.length < start.length)
    (shrinks : ∀ start stop, value start stop → stop.length < start.length)
    (h : Member spells key value before after) : after.length < before.length := by
  obtain ⟨stop, next, start, ⟨mid, rfl, hkey⟩, hcolon, hblanks, hvalue⟩ := h
  have hkey := string key mid stop hkey
  have hcolon := hcolon.length_le
  have hblanks := hblanks.length_le
  have hvalue := shrinks start after hvalue
  rw [List.length_cons] at hcolon ⊢
  omega

theorem Member.mono {spells' : String → Rule} {value' : Rule}
    (string : ∀ s start stop, spells s start stop → spells' s start stop)
    (allowed : ∀ start stop, value start stop → value' start stop)
    (h : Member spells key value before after) : Member spells' key value' before after := by
  obtain ⟨stop, next, start, ⟨mid, hquote, hkey⟩, hcolon, hblanks, hvalue⟩ := h
  exact ⟨stop, next, start, ⟨mid, hquote, string _ _ _ hkey⟩, hcolon, hblanks, allowed _ _ hvalue⟩

/-- A member is read in one way only, if its value is. -/
theorem Member.agree {key' : String} {value' : Rule} {after' : Bytes} {R : Prop}
    (begun : ∀ start stop, value start stop → Begun start)
    (begun' : ∀ start stop, value' start stop → Begun start)
    (agree : ∀ start stop stop', value start stop → value' start stop' → Ends stop → Ends stop' →
      stop = stop' ∧ R)
    (h : Member strictly key value before after) (h' : Member strictly key' value' before after')
    (ends : Ends after) (ends' : Ends after') : after = after' ∧ key = key' ∧ R := by
  obtain ⟨stop, next, start, ⟨mid, rfl, hkey⟩, hcolon, hblanks, hvalue⟩ := h
  obtain ⟨stop', next', start', ⟨mid', heq, hkey'⟩, hcolon', hblanks', hvalue'⟩ := h'
  cases heq
  obtain ⟨rfl, rfl⟩ := hkey.unique hkey'
  cases hcolon.unique hcolon' (by decide) (by decide)
  obtain ⟨b, tail, rfl, hb, -⟩ := begun _ _ hvalue
  obtain ⟨b', tail', rfl, hb', -⟩ := begun' _ _ hvalue'
  cases hblanks.unique hblanks' hb hb'
  obtain ⟨rfl, hR⟩ := agree _ _ _ hvalue hvalue' ends ends'
  exact ⟨rfl, rfl, hR⟩

end Members

/-! ### What is written strictly is written loosely -/

theorem loosely_of_strictly (s : String) (before after : Bytes) (h : strictly s before after) :
    loosely s before after :=
  Characters.skimmed h

theorem Word.length_lt {b : UInt8} {rest before after : Bytes} (h : Word (b :: rest) before after) :
    after.length < before.length := by
  rw [show before = (b :: rest) ++ after from h, List.length_append, List.length_cons]
  omega

section Trees

variable {spells : String → Rule} {t : Tree} {before after : Bytes}

theorem Written.length_lt
    (string : ∀ s start stop, spells s start stop → stop.length < start.length)
    (h : Written spells t before after) : after.length < before.length := by
  induction t generalizing before after with
  | null => exact Word.length_lt h
  | boolean value => cases value <;> exact Word.length_lt h
  | number n => exact Numeral.Written.length_lt h
  | string s =>
    obtain ⟨mid, rfl, hs⟩ := h
    exact Nat.lt_succ_of_lt (string s _ _ hs)
  | array elements ih =>
    obtain ⟨mid, rfl, hlisted⟩ := h
    rw [elementRules_eq_map] at hlisted
    refine Nat.lt_succ_of_lt (hlisted.length_lt fun item hitem start stop hitem' => ?_)
    obtain ⟨t, ht, rfl⟩ := List.mem_map.1 hitem
    exact ih t ht hitem'
  | object members ih =>
    obtain ⟨mid, rfl, hlisted⟩ := h
    rw [memberRules_eq_map] at hlisted
    refine Nat.lt_succ_of_lt (hlisted.length_lt fun item hitem start stop hitem' => ?_)
    obtain ⟨m, hm, rfl⟩ := List.mem_map.1 hitem
    exact hitem'.length_lt string fun start stop hvalue => ih m hm hvalue

/-- Strings may be spelled in more ways. -/
theorem Written.mono {spells' : String → Rule}
    (string : ∀ s start stop, spells s start stop → spells' s start stop)
    (h : Written spells t before after) : Written spells' t before after := by
  induction t generalizing before after with
  | null => exact h
  | boolean value => cases value <;> exact h
  | number n => exact h
  | string s =>
    obtain ⟨mid, hquote, hs⟩ := h
    exact ⟨mid, hquote, string _ _ _ hs⟩
  | array elements ih =>
    obtain ⟨mid, hbracket, hlisted⟩ := h
    refine ⟨mid, hbracket, ?_⟩
    rw [elementRules_eq_map] at hlisted ⊢
    refine hlisted.mono ?_
    rw [List.forall₂_map_left_iff, List.forall₂_map_right_iff, List.forall₂_same]
    exact fun t ht start stop hvalue => ih t ht hvalue
  | object members ih =>
    obtain ⟨mid, hbracket, hlisted⟩ := h
    refine ⟨mid, hbracket, ?_⟩
    rw [memberRules_eq_map] at hlisted ⊢
    refine hlisted.mono ?_
    rw [List.forall₂_map_left_iff, List.forall₂_map_right_iff, List.forall₂_same]
    exact fun m hm start stop hmember => hmember.mono string fun start stop hvalue =>
      ih m hm hvalue

end Trees

/-! ### Unambiguity -/

/-- Where nothing that follows can be part of it, a value is read in one way only. -/
theorem Written.unique {t t' : Tree} {before after after' : Bytes}
    (h : Written strictly t before after) (h' : Written strictly t' before after')
    (ends : Ends after) (ends' : Ends after') : t = t' ∧ after = after' := by
  have hkind := h.kind_eq h'
  induction t generalizing t' before after after' with
  | null =>
    cases t' <;> cases hkind
    exact ⟨rfl, (List.append_cancel_left (h.symm.trans h' : _ ++ after = _ ++ after'))⟩
  | boolean value =>
    cases t' <;> cases hkind
    cases value <;>
      exact ⟨rfl, (List.append_cancel_left (h.symm.trans h' : _ ++ after = _ ++ after'))⟩
  | number n =>
    cases t' <;> cases hkind
    obtain ⟨rfl, rfl⟩ := Numeral.Written.unique h h' ends ends'
    exact ⟨rfl, rfl⟩
  | string s =>
    cases t' <;> cases hkind
    obtain ⟨mid, rfl, hs⟩ := h
    obtain ⟨mid', heq, hs'⟩ := h'
    cases heq
    obtain ⟨rfl, rfl⟩ := Characters.unique hs hs'
    exact ⟨rfl, rfl⟩
  | array elements ih =>
    cases t' <;> cases hkind
    obtain ⟨mid, rfl, hlisted⟩ := h
    obtain ⟨mid', heq, hlisted'⟩ := h'
    cases heq
    rw [elementRules_eq_map] at hlisted hlisted'
    obtain ⟨hall, rfl⟩ := hlisted.align (R := Eq) (fun _ _ _ _ => Written.begun)
      (fun _ _ _ _ => Written.begun) (fun t ht t' _ start stop stop' hw hw' hends hends' =>
        (ih t ht hw hw' hends hends' (hw.kind_eq hw')).symm) hlisted'
    rw [List.forall₂_eq_eq_eq] at hall
    exact ⟨congrArg _ hall, rfl⟩
  | object members ih =>
    cases t' <;> cases hkind
    obtain ⟨mid, rfl, hlisted⟩ := h
    obtain ⟨mid', heq, hlisted'⟩ := h'
    cases heq
    rw [memberRules_eq_map] at hlisted hlisted'
    obtain ⟨hall, rfl⟩ := hlisted.align (R := Eq) (fun _ _ _ _ => Member.begun)
      (fun _ _ _ _ => Member.begun) (fun m hm m' _ start stop stop' hw hw' hends hends' => by
        obtain ⟨hstop, hkey, hvalue⟩ := hw.agree (fun _ _ => Written.begun) (fun _ _ => Written.begun)
          (fun _ _ _ hv hv' hends hends' =>
            (ih m hm hv hv' hends hends' (hv.kind_eq hv')).symm) hw' hends hends'
        exact ⟨hstop, Prod.ext hkey hvalue⟩) hlisted'
    rw [List.forall₂_eq_eq_eq] at hall
    exact ⟨congrArg _ hall, rfl⟩

/-- A text is a document of one tree only. -/
theorem IsDocument.unique {t t' : Tree} {text : Bytes} (h : IsDocument t text)
    (h' : IsDocument t' text) : t = t' := by
  obtain ⟨start, stop, hblanks, hw, hstop⟩ := h
  obtain ⟨start', stop', hblanks', hw', hstop'⟩ := h'
  obtain ⟨b, tail, rfl, hb, -⟩ := hw.begun
  obtain ⟨b', tail', rfl, hb', -⟩ := hw'.begun
  cases hblanks.unique hblanks' hb hb'
  exact (hw.unique hw' (hstop.ends ends_nil) (hstop'.ends ends_nil)).1

end QuerySwarm.Json
