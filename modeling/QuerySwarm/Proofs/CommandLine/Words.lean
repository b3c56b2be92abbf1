import QuerySwarm.CommandLine.Reader
import QuerySwarm.Proofs.Binary64.ReadBack

/-!
# The words of a command

A word may give an option its value, behind an equals sign, or be the bare name of a flag. Neither
is looked at together with the words around it, and the value is taken as it is, so that it may
begin with dashes or hold an equals sign itself. What a word does to the record is then what the
option stores.

* `readWhole_natText`, `names_intercalate`: what is written for a value is read as the value.
* `Reading.step_assigned`, `Reading.step_flag`: what one word does.
* `Reading.finish_of_sole`: only one option falls back on a variable.
-/

namespace QuerySwarm.CommandLine

/-! ### Values -/

theorem readWhole_natText {n : Nat} (h : n < wholeLimit) : readWhole (natText n) = .ok n := by
  have hdigits : ∀ c ∈ digitsOf n, c.isDigit = true := fun _ => Binary64.isDigit_of_mem_digitsOf
  have hvalue : digitsAfter 0 (digitsOf n) = n := Binary64.digitsValue_digitsOf n
  have hread : wholeFrom 0 (digitsOf n) = .ok (digitsAfter 0 (digitsOf n)) :=
    wholeFrom_digits hdigits (by rwa [hvalue])
  rw [hvalue] at hread
  unfold readWhole natText
  rw [String.toList_ofList]
  split
  · next heq => exact absurd heq Nat.toDigits_ne_nil
  · next heq =>
    rw [heq] at hdigits
    exact absurd (hdigits '+' List.mem_cons_self) (by decide)
  · next heq =>
    rw [heq] at hdigits
    exact absurd (hdigits '+' List.mem_cons_self) (by decide)
  · exact hread

theorem whole_natText {n : Nat} (h : n < wholeLimit) : whole (natText n) = .ok n := by
  rw [whole, readWhole_natText h]
  rfl

theorem number_text {x : Binary64} (h : x ≠ .nan) : number x.text = .ok x := by
  rw [number, Binary64.read?_text h]
  rfl

theorem pathText_eq_ok {path : String} (h : path ≠ "") : pathText path = .ok path :=
  if_neg (mt String.isEmpty_iff.1 h)

theorem scenarioWord_word (s : Scenario) : scenarioWord s.word = .ok s := by
  rw [scenarioWord, Scenario.ofWord?_word]

/-- Names without commas are what stands between the commas. -/
theorem names_intercalate {group : List String} (hne : group ≠ [])
    (h : ∀ name ∈ group, ',' ∉ name.toList) : names (",".intercalate group) = group := by
  have hcomma : ∀ cs ∈ group.map String.toList, ',' ∉ cs := by
    rintro cs hcs
    obtain ⟨name, hname, rfl⟩ := List.mem_map.1 hcs
    exact h name hname
  have hsplit := List.splitOn_intercalate ',' hcomma (by simp [hne])
  rw [names, String.toList_intercalate]
  show (List.splitOn ',' ([','].intercalate (group.map String.toList))).map String.ofList = group
  rw [hsplit, List.map_map]
  exact (List.map_congr_left fun name _ => String.ofList_toList).trans (List.map_id group)

/-! ### Words -/

/-- The word that gives a value to an option. -/
def assigned (long value : String) : String := "--" ++ long ++ "=" ++ value

/-- The word that is the bare name of an option. -/
def bare (long : String) : String := "--" ++ long

theorem toList_assigned (long value : String) :
    (assigned long value).toList = '-' :: '-' :: (long.toList ++ '=' :: value.toList) := by
  rw [assigned, String.toList_append, String.toList_append, String.toList_append,
    List.append_assoc, List.append_assoc]
  rfl

theorem toList_bare (long : String) : (bare long).toList = '-' :: '-' :: long.toList := by
  rw [bare, String.toList_append]
  rfl

theorem CommandForm.long?_of_mem {σ : Type} {f : CommandForm σ} {o : OptionForm σ}
    (hnodup : (f.options.map OptionForm.long).Nodup) (h : o ∈ f.options) :
    f.long? o.long = some o := by
  unfold CommandForm.long?
  generalize f.options = options at *
  induction options with
  | nil => cases h
  | cons o' options ih =>
    rw [List.map_cons, List.nodup_cons] at hnodup
    rcases List.mem_cons.1 h with rfl | hmem
    · exact List.find?_cons_of_pos (by simp)
    · have hne : o'.long ≠ o.long := fun heq =>
        hnodup.1 (heq ▸ List.mem_map_of_mem hmem)
      rw [List.find?_cons_of_neg (by simpa using hne), ih hnodup.2 hmem]

namespace Reading

variable {σ : Type} {f : CommandForm σ} {r : Reading σ} {o : OptionForm σ}

theorem splitValue_of_not_mem {name : List Char} (h : '=' ∉ name) :
    splitValue name = (name, none) := by
  induction name with
  | nil => rfl
  | cons c cs ih =>
    rw [List.mem_cons, not_or] at h
    rw [splitValue, ih h.2]
    exact fun hc => h.1 hc.symm

theorem step_of_dashes (env : Environment) {word : String} {rest : List Char}
    (hword : word.toList = '-' :: '-' :: rest) (hne : rest ≠ []) (htrailing : r.trailing = false) :
    step f env r word = stepLong f env r rest := by
  obtain ⟨c, cs, rfl⟩ := List.exists_cons_of_ne_nil hne
  rw [step, htrailing, hword]
  rfl

section

variable (hwaiting : r.waiting = none) (htrailing : r.trailing = false)
variable (hname : '=' ∉ o.long.toList) (hfound : f.long? o.long = some o)
include hwaiting htrailing hname hfound

/-- A word with a value stores the value. -/
theorem step_assigned (env : Environment) {repeatable : Bool} {value : String} {record : σ}
    {store : String → σ → Except ValueFault σ} (hintake : o.intake = .value repeatable store)
    (hnew : o.long ∈ r.given → repeatable = true) (hstore : store value r.record = .ok record) :
    step f env r (assigned o.long value) =
      .ok { r with record := record, given := r.given ++ [o.long] } := by
  rw [step_of_dashes env (toList_assigned o.long value) (by simp) htrailing,
    stepLong_attached env value.toList hname (by rwa [String.ofList_toList]) hintake hwaiting,
    String.ofList_toList]
  exact storeValue_eq_ok hintake hnew hstore

/-- The bare name of a flag sets the flag. -/
theorem step_flag (env : Environment) {store : σ → σ} (hintake : o.intake = .flag store)
    (hlong : o.long ≠ "") (hnew : o.long ∉ r.given) :
    step f env r (bare o.long) =
      .ok { r with record := store r.record, given := r.given ++ [o.long] } := by
  have hgiven : r.given.contains o.long = false := by
    rwa [← Bool.not_eq_true, List.contains_iff_mem]
  have hne : o.long.toList ≠ [] := fun hnil => hlong (String.toList_eq_nil_iff.1 hnil)
  rw [step_of_dashes env (toList_bare o.long) hne htrailing]
  simp only [stepLong, splitValue_of_not_mem hname, String.ofList_toList, hfound, Option.map_none,
    hintake, storeFlag, settle, hwaiting, hgiven, Bool.false_eq_true, if_false]

end

/-! ### Variables -/

theorem fallBacks_of_none (env : Environment) {os : List (OptionForm σ)}
    (h : ∀ o ∈ os, o.fallback? = none) : fallBacks f env r os = .ok r := by
  induction os with
  | nil => rfl
  | cons o os ih =>
    obtain ⟨ho, hos⟩ := List.forall_mem_cons.1 h
    rw [fallBacks, fallBack, ho]
    exact ih hos

/-- Where only the first option falls back on a variable, that is all that is left to do. -/
theorem finish_of_sole (env : Environment) {os : List (OptionForm σ)}
    (hoptions : f.options = o :: os) (hnone : ∀ o ∈ os, o.fallback? = none)
    (hoperand : f.operand? = none) (hwaiting : r.waiting = none) :
    finish f env r = (fallBack f env r o).map Reading.record := by
  rw [finish, settle, hwaiting]
  dsimp only
  rw [hoptions, fallBacks]
  cases fallBack f env r o with
  | error e => rfl
  | ok r' =>
    dsimp only
    rw [fallBacks_of_none env hnone, hoperand]
    rfl

end Reading

end QuerySwarm.CommandLine
