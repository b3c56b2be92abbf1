import QuerySwarm.Http.Exchange

/-!
# Exchanges that end where they began

A response that does not lead to another place ends the exchange: one request is delivered, and what
is sent back is what was answered to it.
-/

namespace QuerySwarm

namespace Network

def IsPlain (net : Network) : Prop :=
  ∀ delivered r response, net.answer? delivered r = some response → r.next? response = none

variable {net : Network} {r : HttpRequest} {delivered : List HttpRequest}

/-- A request that is answered on the spot is the only one. -/
theorem follow_of_stays (reached : net.reaches r.url = true)
    (stays : ∀ response, net.answer? delivered r = some response → r.next? response = none)
    (left : Nat) :
    net.follow left r delivered =
      ⟨match net.answer? delivered r with
        | none => .error (.undelivered r.url)
        | some response => .ok response, delivered ++ [r]⟩ := by
  unfold follow
  rw [reached]
  cases hanswer : net.answer? delivered r with
  | none => rfl
  | some response =>
    simp only [Bool.not_true, Bool.false_eq_true, if_false]
    rw [stays response hanswer]

/-- What a request that is answered on the spot comes to. -/
theorem send_of_stays (scheme : Url.isHttp r.url.scheme = true) (reached : net.reaches r.url = true)
    (stays : ∀ response, net.answer? delivered r = some response → r.next? response = none) :
    net.send r delivered =
      ⟨match net.answer? delivered r with
        | none => .error (.undelivered r.url)
        | some response => readWhole response, delivered ++ [r]⟩ := by
  unfold send
  rw [if_pos scheme, follow_of_stays reached stays]
  cases net.answer? delivered r <;> rfl

/-- What a request that does not get to the server comes to. -/
theorem exists_send_of_unreached
    (h : ¬(Url.isHttp r.url.scheme = true ∧ net.reaches r.url = true))
    (delivered : List HttpRequest) : ∃ e, net.send r delivered = ⟨.error e, delivered⟩ := by
  unfold send
  by_cases scheme : Url.isHttp r.url.scheme = true
  · have hunreached : net.reaches r.url = false := by
      cases hreaches : net.reaches r.url with
      | false => rfl
      | true => exact absurd ⟨scheme, hreaches⟩ h
    rw [if_pos scheme, follow_of_unreached hunreached]
    exact ⟨_, rfl⟩
  · rw [if_neg scheme]
    exact ⟨_, rfl⟩

/-! ### Exchanges that lead on -/

/-- The answer to a request leads to another place, which can be reached. -/
def LeadsOn (net : Network) (r : HttpRequest) (delivered : List HttpRequest) : Prop :=
  ∃ response next, net.answer? delivered r = some response ∧ r.next? response = some next ∧
    Url.isHttp next.url.scheme = true ∧ net.reaches next.url = true

/-- A request that can be sent is delivered, and no more than so many after it. -/
theorem exists_delivered_follow (net : Network) (left : Nat) (r : HttpRequest)
    (delivered : List HttpRequest) (reached : net.reaches r.url = true) :
    ∃ rest, (net.follow left r delivered).delivered = delivered ++ r :: rest ∧
      rest.length ≤ left := by
  induction left generalizing r delivered with
  | zero =>
    refine ⟨[], ?_, Nat.le_refl 0⟩
    unfold follow
    rw [reached]
    simp only [Bool.not_true, Bool.false_eq_true, if_false]
    split
    · rfl
    · split <;> rfl
  | succ left ih =>
    unfold follow
    rw [reached]
    simp only [Bool.not_true, Bool.false_eq_true, if_false]
    split
    · exact ⟨[], rfl, Nat.zero_le _⟩
    · split
      · exact ⟨[], rfl, Nat.zero_le _⟩
      · next next _ =>
        split
        · cases hreaches : net.reaches next.url with
          | false =>
            rw [follow_of_unreached hreaches]
            exact ⟨[], rfl, Nat.zero_le _⟩
          | true =>
            -- what is followed is delivered after this request
            obtain ⟨rest, hrest, hlength⟩ := ih next (delivered ++ [r]) hreaches
            refine ⟨next :: rest, ?_, Nat.succ_le_succ hlength⟩
            rw [hrest, List.append_assoc]
            rfl
        · exact ⟨[], rfl, Nat.zero_le _⟩

/-- Where the answer leads on, another request is delivered. -/
theorem exists_delivered_of_leadsOn (left : Nat) (reached : net.reaches r.url = true)
    (leads : net.LeadsOn r delivered) :
    ∃ next rest, (net.follow (left + 1) r delivered).delivered = delivered ++ r :: next :: rest := by
  obtain ⟨response, next, answered, hnext, http, hreaches⟩ := leads
  obtain ⟨rest, hrest, -⟩ := exists_delivered_follow net left next (delivered ++ [r]) hreaches
  refine ⟨next, rest, ?_⟩
  unfold follow
  rw [reached, answered]
  simp only [Bool.not_true, Bool.false_eq_true, if_false]
  rw [hnext]
  simp only [http, if_true]
  rw [hrest, List.append_assoc]
  rfl

/-- Where the answer does not lead on, it is the only one, and a response is what was answered. -/
theorem follow_of_not_leadsOn (left : Nat) (reached : net.reaches r.url = true)
    (leads : ¬net.LeadsOn r delivered) :
    (net.follow left r delivered).delivered = delivered ++ [r] ∧
      ∀ response, (net.follow left r delivered).result = .ok response →
        net.answer? delivered r = some response := by
  unfold follow
  rw [reached]
  simp only [Bool.not_true, Bool.false_eq_true, if_false]
  cases answered : net.answer? delivered r with
  | none =>
    refine ⟨rfl, fun response h => ?_⟩
    cases h
  | some response =>
    cases hnext : r.next? response with
    | none =>
      simp only [hnext]
      refine ⟨trivial, fun response' h => ?_⟩
      cases h
      rfl
    | some next =>
      simp only [hnext]
      cases left with
      | zero =>
        refine ⟨rfl, fun response' h => ?_⟩
        cases h
      | succ left =>
        by_cases http : Url.isHttp next.url.scheme = true
        · -- the answer names a place of HTTP, so it must be one that cannot be reached
          have hunreached : net.reaches next.url = false := by
            cases hreaches : net.reaches next.url with
            | false => rfl
            | true => exact absurd ⟨response, next, answered, hnext, http, hreaches⟩ leads
          simp only [http, if_true, follow_of_unreached hunreached]
          refine ⟨trivial, fun response' h => ?_⟩
          cases h
        · simp only [http]
          refine ⟨rfl, fun response' h => ?_⟩
          cases h

end Network

end QuerySwarm
