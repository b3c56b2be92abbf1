import Mathlib.Tactic.NormNum
import QuerySwarm.Proofs.Client.Legality
import QuerySwarm.Proofs.Json.Restates
import QuerySwarm.Proofs.Request.Format

/-!
# What is sent of a template

The body of a request is a document again, of the tree of the template with its members in the order
of their keys and its numbers as they are printed. An integer of 64 bits is printed as it was written.
Any other number is read as a double, and what is printed is the shortest decimal of that: an integer
of more than 64 bits, or a decimal with more digits than a double has, is sent as another number.

* `Request.body_reorders`: the document that is sent.
* `Client.isVerbatim_iff`: which templates are sent verbatim.
-/

namespace QuerySwarm

open Json

/-! ### The body of a request -/

namespace Request

/-- What an object asks for that has a query and variables as its only members, in any order. -/
theorem asks_of_perm {members vs : List (String × Tree)} {query query' : String}
    {given : Option (List (String × Tree))}
    (exactly : members.Perm [("query", .string query), ("variables", .object vs)])
    (asks : Asks query' given (.object members)) : query = query' ∧ given = some vs := by
  obtain ⟨hquery, hvariables⟩ := asks
  have hq := (exactly.filter (·.1 = "query")).symm
  have hv := (exactly.filter (·.1 = "variables")).symm
  rw [hquery, List.filter_cons_of_pos (by simp), List.filter_cons_of_neg (by simp),
    List.filter_nil, List.perm_singleton] at hq
  rw [hvariables, List.filter_cons_of_neg (by simp), List.filter_cons_of_pos (by simp),
    List.filter_nil] at hv
  constructor
  · cases hq
    rfl
  · cases given with
    | none => cases hv.length_eq
    | some vs' =>
      cases List.perm_singleton.1 hv
      rfl

/-- What is stored of an object with a query and variables as its only members. -/
theorem stores_of_parse {members vs : List (String × Tree)} {query : String} {content : Bytes}
    {r : Request} (document : IsDocument (.object members) content)
    (exactly : members.Perm [("query", .string query), ("variables", .object vs)])
    (h : parse content = .ok r) :
    query = r.query ∧ (Tree.object vs).value? = some (.object r.bindings) := by
  obtain ⟨given, hasks, hstores⟩ := asks_of_parse document h
  obtain ⟨hquery, rfl⟩ := asks_of_perm exactly hasks
  exact ⟨hquery, hstores⟩

/-- What is sent of a document. -/
theorem body_reorders {members vs : List (String × Tree)} {query : String} {content : Bytes}
    {r : Request} (document : IsDocument (.object members) content)
    (exactly : members.Perm [("query", .string query), ("variables", .object vs)])
    (distinct : (Tree.object vs).HasDistinctKeys) (h : parse content = .ok r) :
    ∃ sent, IsDocument sent (bytesOf r.body) ∧
      ((Tree.object members).respell Numeral.reprinted).Reorders sent := by
  obtain ⟨rfl, hstores⟩ := stores_of_parse document exactly h
  refine ⟨_, (texts_areDocuments r.toJson).1, ?_⟩
  have hmembers : ((Tree.object members).respell Numeral.reprinted).Reorders
      (.object [("query", .string r.query),
        ("variables", (Tree.object vs).respell Numeral.reprinted)]) := by
    rw [Tree.respell, Tree.respellMembers_eq_map]
    refine .of_perm (exactly.map _) ?_
    rw [List.map_map]
    refine (exactly.map Prod.fst).nodup_iff.2 ?_
    simp
  exact hmembers.trans (.member (Tree.reorders_of_value? hstores distinct) "variables"
    [("query", .string r.query)] [])

end Request

/-! ### What is delivered -/

namespace Client

variable {c : Client} {call : Call} {settings : Settings} {text : String}

/-- A document was sent verbatim: after the requests before it, one was delivered whose body is a
document that says the same. -/
def IsVerbatim (t : Tree) (before : List HttpRequest) (s : Sampled) : Prop :=
  ∃ r rest sent, s.delivered = before ++ r :: rest ∧ IsDocument sent r.body ∧ t.Restates sent

/-- Whatever template is accepted that is an object of a query and of variables, with no key twice in
an object of them, and whatever token and host: the request is sent, and its body is the document
with its members in another order and its numbers as they are printed. So it is sent verbatim exactly
if each number is the same when it has been read and is printed again. An integer of 64 bits is; any
other number becomes the shortest decimal of a double. -/
theorem isVerbatim_iff {path query : String} {content : Bytes} {payload : Request}
    {members vs : List (String × Tree)} (template : call.task = .template path)
    (hread : call.files.read path = .ok content)
    (document : IsDocument (.object members) content)
    (exactly : members.Perm [("query", .string query), ("variables", .object vs)])
    (distinct : (Tree.object vs).HasDistinctKeys)
    (accepted : call.task.payload call.files = .ok payload)
    (legal : isHeaderText call.user.token.header = true)
    (parsed : Settings.parseHost text = .ok settings.host) (made : ofSettings settings = .ok c)
    (reached : ∀ url, call.net.reaches url = true) (t : Tally) (before : List HttpRequest) :
    (∃ r rest sent, (call.execute c t before).delivered = before ++ r :: rest ∧
      IsPost settings.host payload r ∧ IsDocument sent r.body ∧
      ((Tree.object members).respell Numeral.reprinted).Reorders sent) ∧
    (IsVerbatim (.object members) before (call.execute c t before) ↔
      ∀ n ∈ (Tree.object members).numerals, n.reprinted.rational = n.rational) ∧
    ∀ n ∈ (Tree.object members).numerals, ∃ number, n.number? = some number ∧
      n.reprinted.rational = number.rational ∧
      ∀ i, number = .integer i → n.reprinted.rational = n.rational := by
  have hparse : Request.parse content = .ok payload := by
    rw [template, Task.payload, Task.readTemplate, hread] at accepted
    dsimp only at accepted
    split at accepted
    · cases accepted
    · next request hrequest =>
      cases accepted
      exact hrequest
  obtain ⟨sent, hsent, hreorders⟩ := Request.body_reorders document exactly distinct hparse
  obtain ⟨r, rest, post, hdelivered⟩ :=
    isSent_of_isHeaderText parsed made legal accepted reached t before
  rw [← post.body] at hsent
  have hdistinct : (Tree.object members).HasDistinctKeys := by
    refine ⟨(exactly.map Prod.fst).nodup_iff.2 (by simp), ?_⟩
    rw [Tree.membersHaveDistinctKeys_iff]
    intro m hm
    have hmem := exactly.mem_iff.1 hm
    simp only [List.mem_cons, List.not_mem_nil, or_false] at hmem
    rcases hmem with rfl | rfl
    · trivial
    · exact distinct
  refine ⟨⟨r, rest, sent, hdelivered, post, hsent, hreorders⟩, ?_, fun n hn => ?_⟩
  · rw [← Tree.restates_respell_iff hdistinct hreorders]
    constructor
    · rintro ⟨r', rest', sent', hdelivered', hsent', hsame⟩
      -- a body is a document of one tree only
      have heq := List.append_cancel_left (hdelivered'.symm.trans hdelivered)
      cases heq
      rwa [hsent'.unique hsent] at hsame
    · exact fun hsame => ⟨r, rest, sent, hdelivered, hsent, hsame⟩
  · obtain ⟨m, hm, hn⟩ := Tree.mem_numeralsOfMembers_iff.1 hn
    have hmem := exactly.mem_iff.1 hm
    simp only [List.mem_cons, List.not_mem_nil, or_false] at hmem
    rcases hmem with rfl | rfl
    · cases hn
    · obtain ⟨-, hstores⟩ := Request.stores_of_parse document exactly hparse
      obtain ⟨number, hnumber⟩ := Tree.exists_number? hstores hn
      refine ⟨number, hnumber, Numeral.rational_reprinted hnumber, ?_⟩
      rintro i rfl
      rw [Numeral.rational_reprinted hnumber, rational_of_integer hnumber]
      rfl

/-- A template with an integer of more than 64 bits. -/
def largeTemplate : Json :=
  .object [("query", .string "q"), ("variables", .object [("n", .integer 18446744073709551617)])]

/-- The double that the integer of that template is read as. -/
def largeDouble : Binary64 := .finite false (Nat.pow 2 1138) (by decide +kernel)

/-- An integer of more than 64 bits is not sent as it stands in the template. -/
theorem not_isVerbatim_of_largeTemplate :
    ∃ (c : Client) (call : Call) (payload : Request) (members vs : List (String × Tree)),
      call.task = .template "/template" ∧
      call.files.read "/template" = .ok (bytesOf largeTemplate.compactText) ∧
      IsDocument (.object members) (bytesOf largeTemplate.compactText) ∧
      members = [("query", .string "q"), ("variables", .object vs)] ∧
      (Tree.object vs).HasDistinctKeys ∧ call.task.payload call.files = .ok payload ∧
      isHeaderText call.user.token.header = true ∧
      Settings.parseHost "http://[::1]:4010" = .ok localSettings.host ∧
      ofSettings localSettings = .ok c ∧ (∀ url, call.net.reaches url = true) ∧
      ¬IsVerbatim (.object members) [] (call.execute c .empty []) := by
  let n : Numeral := (Number.integer 18446744073709551617).numeral
  let vs : List (String × Tree) := [("n", .number n)]
  let content := bytesOf largeTemplate.compactText
  let files : Files := ⟨[(["template"], .file content)], []⟩
  let token : BearerToken := ⟨"token", by decide⟩
  let call : Call := ⟨⟨0, token⟩, .failing, files, .template "/template", 5⟩
  obtain ⟨document, -⟩ := texts_areDocuments largeTemplate
  have hnumber : n.number? = some (.double largeDouble) := by decide +kernel
  have hvalue : (Tree.object vs).value? = some (.object [("n", .double largeDouble)]) := by
    have hn : (Tree.number n).value? = some (.double largeDouble) := by
      rw [Tree.value?, hnumber]
      rfl
    rw [Tree.value?, Tree.memberValues?, hn]
    rfl
  have hread : (call.files.read "/template").toOption = some content := by decide +kernel
  have hread := eq_ok_of_toOption hread
  have hparse : Request.parse content = .ok ⟨"q", [("n", .double largeDouble)]⟩ :=
    (Request.parse_eq_ok_iff_tree document (by decide)).2 ⟨some vs, ⟨rfl, rfl⟩, hvalue⟩
  have accepted : call.task.payload call.files = .ok ⟨"q", [("n", .double largeDouble)]⟩ :=
    Task.payload_template_of_read hread hparse
  obtain ⟨c, made⟩ := exists_ofSettings parseHost_localSettings
  have distinct : (Tree.object vs).HasDistinctKeys := ⟨List.nodup_singleton _, trivial, trivial⟩
  have legal : isHeaderText token.header = true := by decide +kernel
  have reached : ∀ url, call.net.reaches url = true := fun _ => rfl
  obtain ⟨-, hverbatim, hnumbers⟩ := isVerbatim_iff rfl hread document (.refl _) distinct accepted
    legal parseHost_localSettings made reached .empty []
  refine ⟨c, call, _, _, vs, rfl, hread, document, rfl, distinct, accepted, legal,
    parseHost_localSettings, made, reached, fun hsame => ?_⟩
  have hkept := hverbatim.1 hsame n List.mem_cons_self
  have hwritten : n.rational = (18446744073709551617 : Int) :=
    Number.rational_numeral (show Number.IsFinite (.integer 18446744073709551617) from trivial)
  have hshortest : Binary64.shortest .even (Nat.pow 2 1138) = ⟨18446744073709552, 3⟩ := by
    decide +kernel
  have hunits : ∀ k, Nat.pow 2 k ≠ 0 := fun k => (Nat.two_pow_pos k).ne'
  have hprinted : n.reprinted.rational = 18446744073709552 * 10 ^ (3 : ℤ) := by
    rw [Numeral.rational_reprinted hnumber]
    show (1 : ℚ) * (if Nat.pow 2 1138 = 0 then 0
      else (Binary64.shortest .even (Nat.pow 2 1138)).rational) = _
    rw [if_neg (hunits 1138), hshortest, one_mul]
    rfl
  rw [hprinted, hwritten] at hkept
  norm_num at hkept

end Client

end QuerySwarm
