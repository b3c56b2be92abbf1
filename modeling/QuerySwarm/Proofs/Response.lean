import QuerySwarm.Proofs.Json.Documents
import QuerySwarm.Proofs.Json.Reorders
import QuerySwarm.Proofs.Json.Texts
import QuerySwarm.Sample

/-!
# Which responses are good

A body is judged by the tree of its text. It is good if it is an object with data other than `null`
and with no errors listed, the last of several members with one key counting. Otherwise the reason
is that it cannot be read, or else its errors, or else that it has no data, in this order; and it is
the text of the reason that a failed sample tells.

So a body may be set with other blanks, members with different keys may trade places at any level, and
members of other names may be added, and it is as good as before.

* `Response.judge_of_value?`: what the judgement is of, in terms of the tree.
* `Response.judgeBody_decided`: the judgement of any body.
-/

namespace QuerySwarm

namespace Json

/-! ### Values and trees -/

namespace Tree

theorem isNull_of_value? {t : Tree} {x : Json} (h : t.value? = some x) :
    x.isNull = true ↔ t = .null := by
  cases denotes_of_value? h with
  | null => exact iff_of_true rfl rfl
  | _ => exact iff_of_false (by rintro ⟨⟩) (by rintro ⟨⟩)

/-- The last member of a tree with a key, if it is an object that has one. -/
def member? (key : String) : Tree → Option Tree
  | .object members => Members.last? key members
  | _ => none

/-- Members are found in the value where they are in the tree. -/
theorem member?_rel {t : Tree} {x : Json} (h : t.value? = some x) (key : String) :
    Option.Rel (fun t x => value? t = some x) (t.member? key) (x.member? key) := by
  cases denotes_of_value? h with
  | @object ms entries hentries =>
    show Option.Rel _ (Members.last? key ms) (Members.get? key (Members.ofList entries))
    rw [Members.get?_ofList]
    exact Members.last?_rel hentries
  | _ => exact .none

end Tree

end Json

/-! ### The judgement of a tree -/

namespace Response

open Json

/-- The errors that a response lists. -/
def listed (t : Tree) : List Tree :=
  match t.member? "errors" with
  | some (.array errors) => errors
  | _ => []

def HasData (t : Tree) : Prop := ∃ data, t.member? "data" = some data ∧ data ≠ .null

/-- The message of an error, if it is an object with one. -/
def message (error : Tree) : String :=
  match error.member? "message" with
  | some (.string s) => s
  | _ => "unknown error"

variable {t : Tree} {x : Json}

theorem errors_of_value? (h : t.value? = some x) :
    List.Forall₂ (fun t x => Tree.value? t = some x) (listed t) (errors x) := by
  have hrel := Tree.member?_rel h "errors"
  unfold listed errors
  generalize t.member? "errors" = member, x.member? "errors" = found at hrel ⊢
  cases hrel with
  | none => exact .nil
  | some hvalue =>
    cases Tree.denotes_of_value? hvalue with
    | array hall => exact hall
    | _ => exact .nil

theorem hasData_of_value? (h : t.value? = some x) : hasData x = true ↔ HasData t := by
  have hrel := Tree.member?_rel h "data"
  unfold hasData HasData
  generalize t.member? "data" = member, x.member? "data" = found at hrel ⊢
  cases hrel with
  | none => exact iff_of_false (by rintro ⟨⟩) (by rintro ⟨data, ⟨⟩, -⟩)
  | @some data value hvalue =>
    show (!value.isNull) = true ↔ _
    rw [Bool.not_eq_true', ← Bool.not_eq_true, Tree.isNull_of_value? hvalue]
    constructor
    · exact fun hne => ⟨data, rfl, hne⟩
    · rintro ⟨_, ⟨⟩, hne⟩
      exact hne

theorem errorMessage_of_value? (h : t.value? = some x) : errorMessage x = message t := by
  have hrel := Tree.member?_rel h "message"
  unfold errorMessage message
  generalize t.member? "message" = member, x.member? "message" = found at hrel ⊢
  cases hrel with
  | none => rfl
  | some hvalue => cases Tree.denotes_of_value? hvalue <;> rfl

/-- What is judged of a value is in its tree. -/
theorem judge_of_value? (h : t.value? = some x) :
    (judge x = .ok () ↔ listed t = [] ∧ HasData t) ∧
      (∀ count first, judge x = .error (.errors count first) ↔
        ∃ error rest, listed t = error :: rest ∧ count = rest.length + 1 ∧ first = message error) ∧
      (judge x = .error .noData ↔ listed t = [] ∧ ¬HasData t) := by
  have hdata := hasData_of_value? h
  have herrors := errors_of_value? h
  unfold judge
  generalize listed t = errors, Response.errors x = values at herrors ⊢
  cases herrors with
  | nil =>
    dsimp only
    cases hx : hasData x with
    | true => simp [hdata.1 hx]
    | false => simp [mt hdata.2 (Bool.eq_false_iff.1 hx)]
  | @cons error value rest values hfirst hrest =>
    refine ⟨by simp, fun count first => ?_, by simp⟩
    dsimp only
    rw [← hrest.length_eq, errorMessage_of_value? hfirst]
    constructor
    · intro heq
      cases heq
      exact ⟨error, rest, rfl, rfl, rfl⟩
    · rintro ⟨_, _, ⟨⟩, rfl, rfl⟩
      rfl

/-! ### The text of a reason -/

theorem message_notJson (failure : Failure) :
    (Rejection.notJson failure).message = "body is not JSON: " ++ failure.cause.message ++
      " at line " ++ Nat.repr failure.line ++ " column " ++ Nat.repr failure.column := by
  show "body is not JSON: " ++ (failure.cause.message ++ " at line " ++ Nat.repr failure.line ++
    " column " ++ Nat.repr failure.column) = _
  simp only [String.append_assoc]

/-- `Explains body reason`: the reason for which a body is rejected, as it is told. -/
inductive Explains (body : Bytes) : String → Prop
  /-- What stopped the reader, and where. -/
  | notJson (failure : Failure) : (¬∃ t, IsDocument t body ∧ t.IsReadable) →
      parse body = .error failure →
      Explains body ("body is not JSON: " ++ failure.cause.message ++ " at line " ++
        Nat.repr failure.line ++ " column " ++ Nat.repr failure.column)
  /-- How many errors are listed, and the message of the first. -/
  | errors (t error : Tree) (rest : List Tree) : IsDocument t body → t.IsReadable →
      listed t = error :: rest →
      Explains body (Nat.repr (rest.length + 1) ++ " GraphQL error(s), first: " ++ message error)
  | noData (t : Tree) : IsDocument t body → t.IsReadable → listed t = [] → ¬HasData t →
      Explains body "response has no data"

/-! ### The judgement of a body -/

/-- A body that can be read is judged by its value. -/
theorem judgeBody_of_means {t : Tree} {x : Json} {body : Bytes} (document : IsDocument t body)
    (means : t.Means maxDepth x) : judgeBody body = judge x := by
  unfold judgeBody
  rw [parse_eq_ok_iff.2 ⟨t, document, means⟩]

/-- A value is never rejected for not being JSON. -/
theorem judge_ne_notJson (x : Json) (failure : Failure) : judge x ≠ .error (.notJson failure) := by
  intro h
  unfold judge at h
  split at h
  · cases h
  · split at h <;> cases h

theorem exists_notJson_iff {body : Bytes} :
    (∃ failure, judgeBody body = .error (.notJson failure)) ↔
      ¬∃ t, IsDocument t body ∧ t.IsReadable := by
  rw [← parse_eq_error_iff]
  unfold judgeBody
  constructor
  · rintro ⟨failure, hfail⟩
    split at hfail
    · next f hparse => exact ⟨f, hparse⟩
    · next x _ => exact absurd hfail (judge_ne_notJson x failure)
  · rintro ⟨failure, hfail⟩
    exact ⟨failure, by rw [hfail]⟩

/-- A judgement other than that the body is not JSON is one of a tree. -/
theorem exists_of_judgeBody {body : Bytes} {judgement : Except Rejection Unit}
    (h : judgeBody body = judgement) (hjson : ∀ failure, judgement ≠ .error (.notJson failure)) :
    ∃ t x, IsDocument t body ∧ t.Means maxDepth x ∧ judge x = judgement := by
  by_cases hsome : ∃ t, IsDocument t body ∧ t.IsReadable
  · obtain ⟨t, document, x, means⟩ := hsome
    exact ⟨t, x, document, means, (judgeBody_of_means document means).symm.trans h⟩
  · obtain ⟨failure, hfail⟩ := exists_notJson_iff.2 hsome
    exact (hjson failure (h.symm.trans hfail)).elim

/-- The reason of a rejection is told as it is. -/
theorem explains_of_judgeBody {body : Bytes} {rejection : Rejection}
    (h : judgeBody body = .error rejection) : Explains body rejection.message := by
  cases rejection with
  | notJson failure =>
    rw [message_notJson]
    refine .notJson failure (exists_notJson_iff.1 ⟨failure, h⟩) ?_
    unfold judgeBody at h
    split at h
    · next hparse =>
      cases h
      exact hparse
    · next x _ =>
      exact absurd h (judge_ne_notJson x failure)
  | errors count first =>
    obtain ⟨t, x, document, means, hx⟩ := exists_of_judgeBody h (by rintro _ ⟨⟩)
    obtain ⟨error, rest, hlisted, rfl, rfl⟩ := ((judge_of_value? means.2).2.1 count first).1 hx
    exact .errors t error rest document ⟨x, means⟩ hlisted
  | noData =>
    obtain ⟨t, x, document, means, hx⟩ := exists_of_judgeBody h (by rintro _ ⟨⟩)
    obtain ⟨hlisted, hdata⟩ := (judge_of_value? means.2).2.2.1 hx
    exact .noData t document ⟨x, means⟩ hlisted hdata

theorem judgeBody_eq_ok_iff_exists {t : Tree} {body : Bytes} (document : IsDocument t body) :
    judgeBody body = .ok () ↔ ∃ x, t.Means maxDepth x ∧ judge x = .ok () := by
  constructor
  · intro hok
    obtain ⟨t', x, document', means, hx⟩ := exists_of_judgeBody hok (by rintro _ ⟨⟩)
    obtain rfl := document.unique document'
    exact ⟨x, means, hx⟩
  · rintro ⟨x, means, hx⟩
    exact (judgeBody_of_means document means).trans hx

/-- A body is good if its tree can be read, lists no errors and has data. -/
theorem judgeBody_eq_ok_iff {t : Tree} {body : Bytes} (document : IsDocument t body) :
    judgeBody body = .ok () ↔ t.IsReadable ∧ listed t = [] ∧ HasData t := by
  rw [judgeBody_eq_ok_iff_exists document, Tree.IsReadable, ← exists_and_right]
  exact exists_congr fun x => and_congr_right fun means => (judge_of_value? means.2).1

theorem listed_insert {key : String} (hne : "errors" ≠ key) (value : Tree)
    (before after : List (String × Tree)) :
    listed (.object (before ++ (key, value) :: after)) = listed (.object (before ++ after)) := by
  have hmember : (Tree.object (before ++ (key, value) :: after)).member? "errors" =
      (Tree.object (before ++ after)).member? "errors" := Members.last?_insert hne _ _ _
  unfold listed
  rw [hmember]

theorem hasData_insert {key : String} (hne : "data" ≠ key) (value : Tree)
    (before after : List (String × Tree)) :
    HasData (.object (before ++ (key, value) :: after)) ↔ HasData (.object (before ++ after)) := by
  have hmember : (Tree.object (before ++ (key, value) :: after)).member? "data" =
      (Tree.object (before ++ after)).member? "data" := Members.last?_insert hne _ _ _
  unfold HasData
  rw [hmember]

/-- A member that can be read itself does not make an object harder to read. -/
theorem isReadable_insert {value : Tree} (hnesting : value.nesting < maxDepth)
    (hvalue : value.value?.isSome = true) (key : String) (before after : List (String × Tree)) :
    (Tree.object (before ++ (key, value) :: after)).IsReadable ↔
      (Tree.object (before ++ after)).IsReadable := by
  obtain ⟨x, hx⟩ := Option.isSome_iff_exists.1 hvalue
  have hle : value.nesting ≤ 126 := Nat.le_of_lt_succ hnesting
  have hlevels : Tree.nestingOfMembers (before ++ (key, value) :: after) + 1 ≤ 126 + 1 ↔
      Tree.nestingOfMembers (before ++ after) + 1 ≤ 126 + 1 := by
    simp only [Nat.add_le_add_iff_right, Tree.nestingOfMembers_le_iff, List.forall_mem_append,
      List.forall_mem_cons, hle, true_and]
  have hread : (Tree.object (before ++ (key, value) :: after)).value?.isSome =
      (Tree.object (before ++ after)).value?.isSome := by
    rw [Tree.value?, Tree.value?, Tree.memberValues?_append, Tree.memberValues?_append,
      Tree.memberValues?, hx]
    cases Tree.memberValues? before <;> cases Tree.memberValues? after <;> rfl
  unfold Tree.IsReadable Tree.Means
  rw [exists_and_left, exists_and_left, ← Option.isSome_iff_exists, ← Option.isSome_iff_exists,
    hread]
  exact and_congr_left' hlevels

/-- A body is good, or else why it is not: it cannot be read, or lists errors, or has no data. A
sample that fails for its body tells this reason in words, with the number of errors and the message
of the first. Whether a body is good is not changed by its blanks, by the order of members with
different keys, or by members of other names. -/
theorem judgeBody_decided :
    (∀ body, judgeBody body = .ok () ↔
      ∃ t, IsDocument t body ∧ t.IsReadable ∧ listed t = [] ∧ HasData t) ∧
    (∀ body, (∃ failure, judgeBody body = .error (.notJson failure)) ↔
      ¬∃ t, IsDocument t body ∧ t.IsReadable) ∧
    (∀ body count first, judgeBody body = .error (.errors count first) ↔
      ∃ t error rest, IsDocument t body ∧ t.IsReadable ∧ listed t = error :: rest ∧
        count = rest.length + 1 ∧ first = message error) ∧
    (∀ body, judgeBody body = .error .noData ↔
      ∃ t, IsDocument t body ∧ t.IsReadable ∧ listed t = [] ∧ ¬HasData t) ∧
    (∀ body rejection, judgeBody body = .error rejection →
      ∃ reason, Explains body reason ∧ rejection.message = reason ∧
        (SampleError.rejected rejection).message = "response rejected: " ++ reason) ∧
    (∀ t body body', IsDocument t body → IsDocument t body' →
      (judgeBody body = .ok () ↔ judgeBody body' = .ok ())) ∧
    (∀ t t' body body', t.Reorders t' → IsDocument t body → IsDocument t' body' →
      (judgeBody body = .ok () ↔ judgeBody body' = .ok ())) ∧
    ∀ before key value after body body', key ≠ "data" → key ≠ "errors" →
      value.nesting < maxDepth → value.value?.isSome = true →
      IsDocument (.object (before ++ after)) body →
      IsDocument (.object (before ++ (key, value) :: after)) body' →
      (judgeBody body = .ok () ↔ judgeBody body' = .ok ()) := by
  refine ⟨fun body => ⟨fun hok => ?_, ?_⟩, fun body => exists_notJson_iff,
    fun body count first => ⟨fun herror => ?_, ?_⟩, fun body => ⟨fun herror => ?_, ?_⟩,
    fun body rejection h => ⟨_, explains_of_judgeBody h, rfl, rfl⟩,
    fun t body body' h h' => ?_, fun t t' body body' hreorders h h' => ?_, ?_⟩
  · obtain ⟨t, x, document, means, -⟩ := exists_of_judgeBody hok (by rintro _ ⟨⟩)
    exact ⟨t, document, (judgeBody_eq_ok_iff document).1 hok⟩
  · rintro ⟨t, document, hgood⟩
    exact (judgeBody_eq_ok_iff document).2 hgood
  · obtain ⟨t, x, document, means, hx⟩ := exists_of_judgeBody herror (by rintro _ ⟨⟩)
    obtain ⟨error, rest, hlisted⟩ := ((judge_of_value? means.2).2.1 count first).1 hx
    exact ⟨t, error, rest, document, ⟨x, means⟩, hlisted⟩
  · rintro ⟨t, error, rest, document, ⟨x, means⟩, hlisted⟩
    rw [judgeBody_of_means document means]
    exact ((judge_of_value? means.2).2.1 count first).2 ⟨error, rest, hlisted⟩
  · obtain ⟨t, x, document, means, hx⟩ := exists_of_judgeBody herror (by rintro _ ⟨⟩)
    exact ⟨t, document, ⟨x, means⟩, (judge_of_value? means.2).2.2.1 hx⟩
  · rintro ⟨t, document, ⟨x, means⟩, hnone⟩
    rw [judgeBody_of_means document means]
    exact (judge_of_value? means.2).2.2.2 hnone
  · rw [judgeBody_eq_ok_iff h, judgeBody_eq_ok_iff h']
  · rw [judgeBody_eq_ok_iff_exists h, judgeBody_eq_ok_iff_exists h']
    unfold Tree.Means
    rw [hreorders.value?_eq, hreorders.nesting_eq]
  · intro before key value after body body' hdata herrors hnesting hvalue h h'
    rw [judgeBody_eq_ok_iff h, judgeBody_eq_ok_iff h', isReadable_insert hnesting hvalue,
      listed_insert herrors.symm, hasData_insert hdata.symm]

/-- A response with data is good in both of its texts, with its members in the other order, and with
one member more. -/
theorem judgeBody_of_four_texts :
    let members : List (String × Json) := [("data", .boolean true), ("errors", .array [])]
    judgeBody (bytesOf (Json.object members).compactText) = .ok () ∧
      judgeBody (bytesOf (Json.object members).prettyText) = .ok () ∧
      judgeBody (bytesOf (Json.object members.reverse).compactText) = .ok () ∧
      judgeBody (bytesOf (Json.object (members ++ [("hits", .null)])).compactText) = .ok () := by
  intro members
  obtain ⟨hok, -, -, -, -, hblanks, horder, hadded⟩ := judgeBody_decided
  obtain ⟨hcompact, hpretty⟩ := texts_areDocuments (.object members)
  have hread : Tree.IsReadable (.object [("data", .boolean true), ("errors", .array [])]) :=
    ⟨_, by decide, rfl⟩
  have hgood := (hok _).2 ⟨_, hcompact, hread, rfl, .boolean true, rfl, by rintro ⟨⟩⟩
  refine ⟨hgood, (hblanks _ _ _ hcompact hpretty).1 hgood, ?_, ?_⟩
  · exact (horder _ _ _ _ (.swap (by decide) _ _ [] []) hcompact
      (texts_areDocuments (.object members.reverse)).1).1 hgood
  · exact (hadded [("data", .boolean true), ("errors", .array [])] "hits" .null [] _ _ (by decide)
      (by decide) (by decide) rfl hcompact
      (texts_areDocuments (.object (members ++ [("hits", Json.null)]))).1).1 hgood

end Response

end QuerySwarm
