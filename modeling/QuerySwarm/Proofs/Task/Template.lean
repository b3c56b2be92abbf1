import QuerySwarm.Proofs.Files
import QuerySwarm.Proofs.Json.Range
import QuerySwarm.Proofs.Json.Texts
import QuerySwarm.Proofs.Request.Format
import QuerySwarm.Task.Basic

/-!
# What a template task loads

Each time a template task is asked for its payload, the file is read and has to be a request. Where it
is a document, the tree alone decides (`Request.Asks`), and the request holds under each key the last
of the variables that are given (`Request.Holds`). Since nothing is kept from one time to the next,
what is loaded follows from what was last written (`Task.loads_eq_map`).
-/

namespace QuerySwarm

open Json

/-! ### The variables that a request holds -/

namespace Request

variable {given : Option (List (String × Tree))} {bindings : Members}

/-- A request holds of the variables that are given the last with each key, in the order of the keys,
and none of them is one that cannot be read. -/
structure Holds (given : Option (List (String × Tree))) (bindings : Members) : Prop where
  sorted : Members.Sorted bindings
  readable : ∀ m ∈ given.getD [], ∃ x, m.2.value? = some x
  last : ∀ key, Members.get? key bindings = (Members.last? key (given.getD [])).bind Tree.value?

theorem last?_values {vs : List (String × Tree)} {entries : Members}
    (h : List.Forall₂ (fun m e => m.1 = e.1 ∧ m.2.value? = some e.2) vs entries) (key : String) :
    Members.last? key entries = (Members.last? key vs).bind Tree.value? := by
  have hrel : Option.Rel (fun t x => Tree.value? t = some x) (Members.last? key vs)
      (Members.last? key entries) := Members.last?_rel h
  generalize Members.last? key vs = t?, Members.last? key entries = x? at hrel ⊢
  cases hrel with
  | none => rfl
  | some hx => exact hx.symm

theorem stores_iff_holds : Stores given bindings ↔ Holds given bindings := by
  cases given with
  | none =>
    constructor
    · rintro rfl
      exact ⟨List.Pairwise.nil, fun _ hm => absurd hm List.not_mem_nil, fun _ => rfl⟩
    · intro h
      have hnil : Members.Sorted [] := List.Pairwise.nil
      exact h.sorted.ext hnil h.last
  | some vs =>
    show (Tree.object vs).value? = some (.object bindings) ↔ _
    rw [Tree.value?, Option.map_eq_some_iff]
    simp only [Tree.memberValues?_eq_some_iff]
    constructor
    · rintro ⟨entries, hentries, heq⟩
      obtain rfl : Members.ofList entries = bindings := Json.object.inj heq
      refine ⟨Members.sorted_ofList entries, fun m hm => ?_, fun key => ?_⟩
      · obtain ⟨e, -, -, hx⟩ := Tree.exists_of_forall₂_left hentries hm
        exact ⟨e.2, hx⟩
      · rw [Members.get?_ofList]
        exact last?_values hentries key
    · intro h
      have hread : ∀ m ∈ vs, ∃ e : String × Json, m.1 = e.1 ∧ m.2.value? = some e.2 := fun m hm => by
        obtain ⟨x, hx⟩ := h.readable m hm
        exact ⟨(m.1, x), rfl, hx⟩
      obtain ⟨entries, hentries⟩ := Tree.exists_forall₂ hread
      refine ⟨entries, hentries, congrArg Json.object ?_⟩
      refine (Members.sorted_ofList entries).ext h.sorted fun key => ?_
      rw [Members.get?_ofList, h.last]
      exact last?_values hentries key

/-- The variables that a document gives are part of it. -/
theorem Asks.numerals {query : String} {vs : List (String × Tree)} {t : Tree}
    (h : Asks query (some vs) t) {n : Numeral} (hn : n ∈ (Tree.object vs).numerals) :
    n ∈ t.numerals := by
  cases t with
  | object members =>
    have hmem : ("variables", Tree.object vs) ∈ members.filter (·.1 = "variables") := by
      rw [h.2]
      exact List.mem_singleton_self _
    exact Tree.mem_numeralsOfMembers_iff.2 ⟨_, (List.mem_filter.1 hmem).1, hn⟩
  | array elements =>
    obtain rfl : elements = .string query :: [Tree.object vs] := h
    exact Tree.mem_numeralsOfElements_iff.2
      ⟨_, List.mem_cons_of_mem _ (List.mem_singleton_self _), hn⟩
  | _ => exact h.elim

/-- Of a tree that can be read, the variables can be held. -/
theorem exists_holds {query : String} {t : Tree} (readable : t.IsReadable) (h : Asks query given t) :
    ∃ bindings, Holds given bindings := by
  cases given with
  | none => exact ⟨[], stores_iff_holds.1 rfl⟩
  | some vs =>
    obtain ⟨x, -, hx⟩ := readable
    obtain ⟨y, hy⟩ := Tree.exists_value? fun n hn => Tree.exists_number? hx (h.numerals hn)
    obtain ⟨entries, -, rfl⟩ := Option.map_eq_some_iff.1 hy
    exact ⟨_, stores_iff_holds.1 hy⟩

end Request

namespace Task

open Request

variable {path : String} {files : Files}

/-! ### One load -/

/-- What is loaded of a file with a content, or of none. -/
def loaded (path : String) : Option Bytes → Except PayloadError Request
  | none => .error (.unreadable path .notFound)
  | some content =>
    match Request.parse content with
    | .error failure => .error (.malformed path failure)
    | .ok request => .ok request

theorem payload_of_read {content : Bytes} (h : files.read path = .ok content) :
    (template path).payload files = loaded path (some content) := by
  simp only [payload, readTemplate, h]
  rfl

theorem loaded_eq_ok_iff {content : Bytes} {r : Request} :
    loaded path (some content) = .ok r ↔ Request.parse content = .ok r := by
  simp only [loaded]
  cases Request.parse content with
  | error failure => exact iff_of_false (by rintro ⟨⟩) (by rintro ⟨⟩)
  | ok request => simp only [Except.ok.injEq]

theorem malformed_of_parse {content : Bytes} (h : ∀ r, Request.parse content ≠ .ok r) :
    ∃ failure, loaded path (some content) = .error (.malformed path failure) := by
  simp only [loaded]
  cases hparse : Request.parse content with
  | error failure => exact ⟨failure, rfl⟩
  | ok request => exact absurd hparse (h request)

/-! ### A file that changes between the loads -/

/-- What happens one after the other: the file of a template is written or taken away, or the task is
asked for its payload. -/
inductive Event where
  | write (content : Bytes)
  | remove
  | load

namespace Event

/-- The files after an event. What cannot be written or taken away leaves them as they were. -/
def apply (path : String) (files : Files) : Event → Files
  | write content =>
    match files.write path content with
    | .ok files => files
    | .error _ => files
  | remove =>
    match files.locate path with
    | .ok location => files.remove location
    | .error _ => files
  | load => files

/-- The content of the file after an event. -/
def content (current : Option Bytes) : Event → Option Bytes
  | write content => some content
  | remove => none
  | load => current

end Event

/-- What a task gives, load by load. -/
def loads (task : Task) (path : String) (files : Files) :
    List Event → List (Except PayloadError Request)
  | [] => []
  | .load :: events => task.payload files :: loads task path files events
  | event :: events => loads task path (event.apply path files) events

/-- What the file holds, load by load. -/
def contents (current : Option Bytes) : List Event → List (Option Bytes)
  | [] => []
  | .load :: events => current :: contents current events
  | event :: events => contents (event.content current) events

/-- A path leads to a place that holds a file of this content, or nothing. -/
structure Leads (path : String) (location : Location) (current : Option Bytes) (files : Files) :
    Prop where
  located : files.locate path = .ok location
  entry : files.entryAt? location = current.map .file

section Leads

variable {location : Location} {current : Option Bytes}

theorem Leads.ne_directory (h : Leads path location current files) :
    files.entryAt? location ≠ some .directory := by
  rw [h.entry]
  cases current <;> rintro ⟨⟩

theorem Leads.payload (h : Leads path location current files) :
    (template path).payload files = loaded path current := by
  have hread : files.read path = match current with
      | none => .error .notFound
      | some content => .ok content := by
    unfold Files.read
    simp only [h.located, h.entry]
    cases current <;> rfl
  cases current with
  | none => simp only [Task.payload, readTemplate, hread, loaded]
  | some content => exact payload_of_read hread

/-- After every event the path leads to the same place, with what was put there. -/
theorem Leads.apply (h : Leads path location current files) (event : Event) :
    Leads path location (event.content current) (event.apply path files) := by
  have hdirectory := h.ne_directory
  cases event with
  | write content =>
    -- there is nothing at the place that cannot be written to
    have hplace : files.entryAt? location = none ∨
        ∃ old, files.entryAt? location = some (.file old) := by
      rw [h.entry]
      cases current with
      | none => exact .inl rfl
      | some old => exact .inr ⟨old, rfl⟩
    have hfiles : (Event.write content).apply path files = files.put location (.file content) := by
      simp only [Event.apply, Files.write_eq_put h.located hplace]
    rw [hfiles]
    exact ⟨Files.locate_put h.located hdirectory _,
      Files.entryAt?_put files _ (Files.ne_root_of_entryAt? hdirectory)⟩
  | remove =>
    have hfiles : Event.remove.apply path files = files.remove location := by
      simp only [Event.apply, h.located]
    rw [hfiles]
    exact ⟨Files.locate_remove h.located hdirectory,
      Files.entryAt?_remove files (Files.ne_root_of_entryAt? hdirectory)⟩
  | load => exact h

/-- Whatever came before, each load gives what the file holds at that time. -/
theorem loads_eq_map (h : Leads path location current files) (events : List Event) :
    loads (template path) path files events = (contents current events).map (loaded path) := by
  induction events generalizing files current with
  | nil => rfl
  | cons event events ih =>
    -- a load changes nothing; every other event goes on from what it has put there
    cases event with
    | load => rw [loads, contents, List.map_cons, h.payload, ih h]
    | write content => exact ih (h.apply (.write content))
    | remove => exact ih (h.apply .remove)

end Leads

/-! ### The format -/

/-- What a template task gives, whatever file its path leads to.

A document that is not nested too deep is accepted exactly if its tree is a request and its variables
can be read, which they can be if its numbers are in range; the request then holds what is given. Any
content is accepted exactly if it is in one of the forms of a request, in which members that are passed
over may hold what could not be read; it is malformed otherwise, and a file that cannot be read is
unreadable. Whatever is written and taken away between the loads, each of them gives what follows from
the content of the file at that time. -/
theorem payload_template_decided {path : String} :
    (∀ {files content}, files.read path = .ok content →
      (∀ {t}, IsDocument t content → t.nesting ≤ maxDepth →
        (∀ r, (template path).payload files = .ok r ↔
          ∃ given, Asks r.query given t ∧ Holds given r.bindings) ∧
        ((∀ n ∈ t.numerals, n.IsInRange) →
          ((∃ r, (template path).payload files = .ok r) ↔ ∃ query given, Asks query given t))) ∧
      (∀ r, (template path).payload files = .ok r ↔ ∃ (form : Form) (start stop : Bytes),
        form.Gives r ∧ Blanks content start ∧ form.rule start stop ∧ Blanks stop []) ∧
      ((∀ r, (template path).payload files ≠ .ok r) →
        ∃ failure, (template path).payload files = .error (.malformed path failure))) ∧
    (∀ {files e}, files.read path = .error e →
      (template path).payload files = .error (.unreadable path e)) ∧
    ∀ {location current files}, Leads path location current files → ∀ events,
      loads (template path) path files events = (contents current events).map (loaded path) := by
  refine ⟨fun {files content} hread => ?_, fun hread => ?_, fun h => loads_eq_map h⟩
  · rw [payload_of_read hread]
    simp only [loaded_eq_ok_iff]
    refine ⟨fun {t} document nesting => ?_, fun r => parse_eq_ok_iff_form, fun hnone => ?_⟩
    · have hdecided : ∀ r, Request.parse content = .ok r ↔
          ∃ given, Asks r.query given t ∧ Holds given r.bindings := fun r => by
        simp only [parse_eq_ok_iff_tree document nesting, stores_iff_holds]
      refine ⟨hdecided, fun range => ⟨?_, ?_⟩⟩
      · rintro ⟨r, hr⟩
        obtain ⟨given, hasks, -⟩ := (hdecided r).1 hr
        exact ⟨r.query, given, hasks⟩
      · rintro ⟨query, given, hasks⟩
        obtain ⟨bindings, hholds⟩ :=
          exists_holds (isReadable_of_range document nesting range) hasks
        exact ⟨⟨query, bindings⟩, (hdecided _).2 ⟨given, hasks, hholds⟩⟩
    · exact malformed_of_parse fun r hr => hnone r (loaded_eq_ok_iff.2 hr)
  · simp only [payload, readTemplate, hread]

/-- A template that gives a variable twice. -/
def repeated : Json :=
  .object [("query", .string "q"), ("variables", .object [("n", .integer 1), ("n", .integer 2)])]

/-- The last of two variables counts, and a template is loaded again once it has been put back. -/
theorem payload_of_repeated :
    let content := bytesOf repeated.compactText
    let files : Files := ⟨[(["template"], .file content)], []⟩
    let request : Request := ⟨"q", [("n", .integer 2)]⟩
    (∃ r, (template "/template").payload files = .ok r) ∧
      (template "/template").payload files = .ok request ∧
      (∃ failure, (template "/template").payload ⟨[(["template"], .file [])], []⟩ =
        .error (.malformed "/template" failure)) ∧
      (template "/template").payload ⟨[], []⟩ = .error (.unreadable "/template" .notFound) ∧
      loads (template "/template") "/template" files [.load, .remove, .load, .write content, .load] =
        [.ok request, .error (.unreadable "/template" .notFound), .ok request] := by
  intro content files request
  let one : Numeral := (Number.integer 1).numeral
  let two : Numeral := (Number.integer 2).numeral
  let vs : List (String × Tree) := [("n", .number one), ("n", .number two)]
  let t : Tree := .object [("query", .string "q"), ("variables", .object vs)]
  obtain ⟨document, -⟩ : IsDocument t content ∧ _ := texts_areDocuments repeated
  have hread : files.read "/template" = .ok content := by rfl
  have hempty : Files.read ⟨[(["template"], .file [])], []⟩ "/template" = .ok [] := by rfl
  have hmissing : Files.read ⟨[], []⟩ "/template" = .error .notFound := by rfl
  have hleads : Leads "/template" ["template"] (some content) files := ⟨by rfl, rfl⟩
  have hrange : ∀ n ∈ t.numerals, n.IsInRange := by
    have hsmall : ∀ i : ℕ, i ≤ 2 → |((i : Int) : ℚ)| ≤ readableLimit := fun i hi => by
      have hlimit : 2 ≤ readableLimit := by decide +kernel
      rw [Int.cast_natCast, Nat.abs_cast]
      exact_mod_cast hi.trans hlimit
    have hone : one.rational = (1 : Int) :=
      Number.rational_numeral (show Number.IsFinite (.integer 1) from trivial)
    have htwo : two.rational = (2 : Int) :=
      Number.rational_numeral (show Number.IsFinite (.integer 2) from trivial)
    intro n hn
    obtain rfl | rfl : n = one ∨ n = two := by
      simpa [t, vs, Tree.numerals, Tree.numeralsOfMembers] using hn
    · refine ⟨?_, by decide⟩
      rw [hone]
      exact hsmall 1 (by decide)
    · refine ⟨?_, by decide⟩
      rw [htwo]
      exact hsmall 2 (by decide)
  have hvalue : (Tree.object vs).value? = some (.object [("n", .integer 2)]) := by
    have hone : (Tree.number one).value? = some (.integer 1) := rfl
    have htwo : (Tree.number two).value? = some (.integer 2) := rfl
    rw [Tree.value?, Tree.memberValues?, Tree.memberValues?, hone, htwo]
    rfl
  obtain ⟨hdecided, hmissed, hloads⟩ := @payload_template_decided "/template"
  obtain ⟨htree, -, -⟩ := hdecided hread
  obtain ⟨hpayload, haccepted⟩ := htree document (by decide)
  have hok : (template "/template").payload files = .ok request :=
    (hpayload request).2 ⟨some vs, ⟨rfl, rfl⟩, stores_iff_holds.1 hvalue⟩
  refine ⟨(haccepted hrange).2 ⟨"q", some vs, rfl, rfl⟩, hok, ?_, hmissed hmissing, ?_⟩
  · obtain ⟨-, -, hmalformed⟩ := hdecided hempty
    refine hmalformed fun r hr => ?_
    rw [payload_of_read hempty, loaded_eq_ok_iff] at hr
    have hnone : (Request.parse []).toOption = none := by decide +kernel
    rw [hr] at hnone
    cases hnone
  · have hloaded : loaded "/template" (some content) = .ok request := by
      rw [← payload_of_read hread, hok]
    have habsent : loaded "/template" none = .error (.unreadable "/template" .notFound) := rfl
    rw [hloads hleads]
    simp only [contents, Event.content, List.map_cons, List.map_nil, hloaded, habsent]

/-! ### Numbers at the limit -/

/-- The text of an object of a query and one member more. -/
def textWith (key : String) (value : List Char) : List Char :=
  openBrace :: (spread .tight 0
    [memberText .tight "query" (stringText "q"), memberText .tight key value] ++ [closeBrace])

theorem textWith_isDocument {value : List Char} {t : Tree} (h : Shows (Written strictly t) value)
    (key : String) :
    IsDocument (.object [("query", .string "q"), (key, t)]) (Utf8.encode (textWith key value)) := by
  have hmembers : List.Forall₂ Shows (memberRules strictly [("query", .string "q"), (key, t)])
      [memberText .tight "query" (stringText "q"), memberText .tight key value] :=
    .cons ((shows_string "q").member "query") (.cons (h.member key) .nil)
  have hwritten : Written strictly (.object [("query", .string "q"), (key, t)])
      (Utf8.encode (textWith key value) ++ []) [] := ⟨_, rfl, listed_spread rfl hmembers []⟩
  rw [List.append_nil] at hwritten
  exact ⟨_, [], .none _, hwritten, .none _⟩

/-- A number of whole digits and an exponent that is not negative. -/
def scaledUp (whole exponent : List Char) : Spelling := ⟨whole, none, some (false, exponent)⟩

theorem abs_rational_scaledUp (whole exponent : List Char) :
    |((scaledUp whole exponent).numeral false).rational| =
      (decimal (digitValues whole) * 10 ^ decimal (digitValues exponent) : Nat) := by
  have hdigits : digitValues whole ++ [] = digitValues whole := List.append_nil _
  rw [Numeral.abs_rational]
  show (decimal (digitValues whole ++ []) : ℚ) *
    10 ^ ((decimal (digitValues exponent) : ℤ) - (0 : Nat)) = _
  rw [hdigits, Int.natCast_zero, sub_zero, zpow_natCast]
  push_cast
  rfl

theorem shows_scaledUp {first : Char} {rest exponent : List Char} (hfirst : first ≠ '0')
    (hwhole : (first :: rest).all Char.isDigit = true) (hne : exponent ≠ [])
    (hexponent : exponent.all Char.isDigit = true) :
    Shows (Written strictly (.number ((scaledUp (first :: rest) exponent).numeral false)))
      (scaledUp (first :: rest) exponent).text := by
  have hwell : (scaledUp (first :: rest) exponent).IsWellFormed := by
    refine ⟨List.all_eq_true.1 hwhole, .inr ⟨first, rest, rfl, hfirst⟩, ?_, ?_⟩
    · rintro _ ⟨⟩
    · rintro _ ⟨⟩
      exact ⟨hne, List.all_eq_true.1 hexponent⟩
  exact fun after => hwell.written false after

/-- The largest double. -/
def largestDouble : Nat := (Nat.pow 2 53 - 1) * Nat.pow 2 971

/-- A template is accepted with a number that is too large for a double, where it is passed over; and
one may be refused for a number that is not, if it has more digits than are taken exactly. -/
theorem payload_of_large_numbers :
    let accepted := bytesOf "\x7b\"query\":\"q\",\"x\":1e+999\x7d"
    let refused := bytesOf
      "\x7b\"query\":\"q\",\"variables\":\x7b\"n\":17976931348623156281e+289\x7d\x7d"
    ((template "/template").payload ⟨[(["template"], .file accepted)], []⟩ = .ok ⟨"q", []⟩ ∧
      ∀ t, IsDocument t accepted → ∃ n ∈ t.numerals, (largestDouble : ℚ) < |n.rational|) ∧
    (∃ t vs, IsDocument t refused ∧ t.nesting ≤ maxDepth ∧
      (∀ n ∈ t.numerals, |n.rational| ≤ largestDouble) ∧ Asks "q" (some vs) t) ∧
    ∃ failure, (template "/template").payload ⟨[(["template"], .file refused)], []⟩ =
      .error (.malformed "/template" failure) := by
  intro accepted refused
  let large := scaledUp ['1'] ['9', '9', '9']
  let close := scaledUp "17976931348623156281".toList ['2', '8', '9']
  let n : Numeral := close.numeral false
  have hlarge : IsDocument (.object [("query", .string "q"), ("x", .number (large.numeral false))])
      accepted := by
    have hshown : Shows (Written strictly (.number (large.numeral false))) large.text :=
      shows_scaledUp (by decide) rfl (by decide) rfl
    have htext : accepted = Utf8.encode (textWith "x" large.text) := by decide +kernel
    rw [htext]
    exact textWith_isDocument hshown "x"
  -- an object in an object, each with its members set tight
  have hclose : IsDocument
      (.object [("query", .string "q"), ("variables", .object [("n", .number n)])]) refused := by
    have hshown : Shows (Written strictly (.number n)) close.text :=
      shows_scaledUp (by decide) rfl (by decide) rfl
    have hinside : Shows (Written strictly (.object [("n", .number n)]))
        (openBrace :: (spread .tight 1 [memberText .tight "n" close.text] ++ [closeBrace])) :=
      fun after => ⟨_, rfl, listed_spread rfl (.cons (hshown.member "n") .nil) after⟩
    have htext : refused = Utf8.encode (textWith "variables"
        (openBrace :: (spread .tight 1 [memberText .tight "n" close.text] ++ [closeBrace]))) := by
      decide +kernel
    rw [htext]
    exact textWith_isDocument hinside "variables"
  have hread : ∀ content,
      Files.read ⟨[(["template"], .file content)], []⟩ "/template" = .ok content := fun _ => rfl
  refine ⟨⟨?_, fun t ht => ?_⟩, ⟨_, _, hclose, by decide, ?_, rfl, rfl⟩, ?_⟩
  · rw [payload_of_read (hread accepted), loaded_eq_ok_iff, parse_eq_ok_iff_tree hlarge (by decide)]
    exact ⟨none, ⟨rfl, rfl⟩, rfl⟩
  · obtain rfl := ht.unique hlarge
    refine ⟨large.numeral false, List.mem_singleton_self _, ?_⟩
    have habove : largestDouble <
        decimal (digitValues ['1']) * 10 ^ decimal (digitValues ['9', '9', '9']) := by decide +kernel
    rw [abs_rational_scaledUp]
    exact_mod_cast habove
  · intro m hm
    obtain rfl : m = n := List.mem_singleton.1 hm
    have hbelow : decimal (digitValues "17976931348623156281".toList) *
        10 ^ decimal (digitValues ['2', '8', '9']) ≤ largestDouble := by decide +kernel
    rw [abs_rational_scaledUp]
    exact_mod_cast hbelow
  · rw [payload_of_read (hread refused)]
    have hnone : (Request.parse refused).toOption = none := by decide +kernel
    refine malformed_of_parse fun r hr => ?_
    rw [hr] at hnone
    cases hnone

end Task

end QuerySwarm
