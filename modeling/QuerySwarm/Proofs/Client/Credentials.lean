import QuerySwarm.Proofs.Client.Redirects

/-!
# The credential of a request

Every request carries the token in a header. But a user name and a password in the URL of the host
become a header of the same name, which is put before it; so a host decides, too, who a request says
that it comes from.

* `Url.credentials?_eq_none_iff`: which URLs have no credentials, although there may be an `@` in them.
* `Client.values_of_request`: the values of the header, in their order.
* `Client.isSoleBearer_iff`: the token is the only credential exactly if the host brings none.
-/

namespace QuerySwarm

/-! ### Text that is escaped -/

theorem Utf8.decode?_cons_ne_nil (b : UInt8) (rest : Bytes) : decode? (b :: rest) ≠ some [] := by
  unfold decode?
  rw [pieces]
  cases hstep : (decodeStep b rest).1 with
  | none => simp
  | some c =>
    dsimp only
    split <;> simp

namespace Url

theorem encodeChar_ne_nil (c : Char) : Utf8.encodeChar c ≠ [] := by
  obtain ⟨b, bs, hb, -⟩ := Utf8.decodeStep_encodeChar c []
  rw [hb]
  exact List.cons_ne_nil _ _

/-- Every character stands for some byte. -/
theorem decode_cons_ne_nil (c : Char) (rest : List Char) : decode (c :: rest) ≠ [] := by
  have hchar : ∀ bytes, Utf8.encodeChar c ++ bytes ≠ [] := fun bytes h =>
    encodeChar_ne_nil c (List.append_eq_nil_iff.1 h).1
  unfold decode
  split
  · split
    · split
      · exact List.cons_ne_nil _ _
      · exact hchar _
    · exact hchar _
  · exact hchar _

theorem decodedText?_eq_nil_iff (part : List Char) : decodedText? part = some [] ↔ part = [] := by
  constructor
  · intro h
    cases part with
    | nil => rfl
    | cons c rest =>
      unfold decodedText? at h
      cases hbytes : decode (c :: rest) with
      | nil => exact absurd hbytes (decode_cons_ne_nil c rest)
      | cons b bytes =>
        rw [hbytes] at h
        exact absurd h (Utf8.decode?_cons_ne_nil b bytes)
  · rintro rfl
    decide +kernel

/-! ### Credentials in a URL -/

/-- A URL has no credentials if its user name is no text, or if there is no user name and no password
that is text. -/
theorem credentials?_eq_none_iff (u : Url) :
    u.credentials? = none ↔ decodedText? u.username = none ∨
      (u.username = [] ∧ u.password.bind decodedText? = none) := by
  unfold credentials?
  cases hname : decodedText? u.username with
  | none => simp
  | some name =>
    have hempty : name = [] ↔ u.username = [] := by
      rw [← decodedText?_eq_nil_iff u.username, hname, Option.some_inj]
    simp [hempty]

/-- Only the user name and the password count. -/
theorem credentials?_congr {u v : Url} (hname : u.username = v.username)
    (hpassword : u.password = v.password) : u.credentials? = v.credentials? := by
  unfold credentials?
  rw [hname, hpassword]

theorem mem_of_mem_cleaned {c : Char} {cs : List Char} (h : c ∈ cleaned cs) : c ∈ cs := by
  have htrimmed := (List.mem_filter.1 h).1
  have hback := (List.dropWhile_sublist _).subset (List.mem_reverse.1 htrimmed)
  exact (List.dropWhile_sublist _).subset (List.mem_reverse.1 hback)

theorem mem_of_splitScheme {cs scheme rest : List Char} (h : splitScheme cs = some (scheme, rest))
    {c : Char} (hc : c ∈ rest) : c ∈ cs := by
  unfold splitScheme at h
  split at h
  · cases h
  · split at h
    · split at h
      · next hdrop =>
        cases h
        refine (List.dropWhile_sublist isSchemeChar).subset ?_
        rw [hdrop]
        exact List.mem_cons_of_mem _ hc
      · cases h
    · cases h

theorem userinfo_of_parseParts {scheme hostAndPort rest : List Char} {u : Url}
    (h : parseParts scheme [] hostAndPort rest = .ok u) : u.username = [] ∧ u.password = none := by
  unfold parseParts at h
  dsimp only at h
  repeat' split at h
  all_goals cases h
  exact ⟨rfl, rfl⟩

/-- A text without an `@` names no user. -/
theorem userinfo_of_parse {s : String} {u : Url} (h : parse s = .ok u)
    (http : isHttp u.scheme = true) (plain : '@' ∉ s.toList) :
    u.username = [] ∧ u.password = none := by
  obtain ⟨scheme, rest, hsplit, -, hauthority⟩ := exists_parseAuthority_of_parse h http
  have hrest : '@' ∉ rest.dropWhile (isSeparator true) := fun hmem =>
    plain (mem_of_mem_cleaned (mem_of_splitScheme hsplit ((List.dropWhile_sublist _).subset hmem)))
  unfold parseAuthority at hauthority
  dsimp only at hauthority
  split at hauthority
  · cases hauthority
  · split at hauthority
    · exact userinfo_of_parseParts hauthority
    · next userinfo hostAndPort hsign =>
      -- the authority was split at an `@`, and it is a part of the text
      unfold splitAtSign at hsign
      split at hsign
      · next hcontains =>
        have hmem := List.contains_iff_mem.1 hcontains
        exact absurd ((List.takeWhile_sublist _).subset hmem) hrest
      · cases hsign

end Url

/-! ### The header of a request -/

namespace HttpRequest

/-- The token is the one credential of the request. -/
def IsSoleBearer (r : HttpRequest) (token : BearerToken) : Prop :=
  r.values authorizationHeader = ["Bearer " ++ token.text]

theorem values_authorization_ofUrl (method : HttpMethod) (url : Url) (body : Bytes) :
    (ofUrl method url body).values authorizationHeader =
      (url.credentials?.map Url.Credentials.header).toList := by
  unfold ofUrl
  cases url.credentials? <;> simp [values]

end HttpRequest

namespace Client

variable {c : Client} {call : Call} {before : List HttpRequest}

/-- The user in the URL of the host is the user in all URLs that requests go to. -/
theorem credentials?_urlFor {settings : Settings} (made : ofSettings settings = .ok c)
    (operation : String) : (c.urlFor operation).credentials? = settings.host.credentials? := by
  have hendpoint : c.endpoint.credentials? = settings.host.credentials? := by
    unfold ofSettings at made
    split at made
    · cases made
    · next endpoint hhost =>
      cases made
      obtain ⟨-, hname, hpassword, -⟩ := Endpoint.ofHost_origin hhost
      exact Url.credentials?_congr hname hpassword
  rw [← hendpoint]
  unfold urlFor Endpoint.urlFor
  split
  · exact Url.credentials?_congr rfl rfl
  · rfl

/-- What a request says about who sends it: first the credentials of the host, then the token. -/
theorem values_of_request {settings : Settings} {token : BearerToken} {operation : String}
    {payload : Request} {r : HttpRequest} (made : ofSettings settings = .ok c)
    (h : c.request token operation payload = .ok r) :
    r.values authorizationHeader =
      (settings.host.credentials?.map Url.Credentials.header).toList ++ [token.header] := by
  have hother : contentTypeHeader ≠ authorizationHeader := by decide
  unfold request at h
  dsimp only at h
  split at h
  · cases h
  · split at h
    · cases h
    · cases h
      rw [HttpRequest.values_add_of_ne _ _ hother, HttpRequest.values_add_self,
        HttpRequest.values_authorization_ofUrl, credentials?_urlFor made]

theorem exists_delivered_send {net : Network} {r : HttpRequest}
    (http : Url.isHttp r.url.scheme = true) (reached : net.reaches r.url = true)
    (before : List HttpRequest) :
    ∃ rest, (net.send r before).delivered = before ++ r :: rest := by
  obtain ⟨rest, hrest, -⟩ := net.exists_delivered_follow Network.redirectLimit r before reached
  refine ⟨rest, ?_⟩
  unfold Network.send
  rw [if_pos http]
  exact hrest

/-- With a host that is accepted, a token that can be a header and a payload there is one request to
send, and it is the first one that a sample delivers to a server that can be reached. Its credentials
are those of the host, if it has any, and the token after them. So the token is the only one exactly
if the user name of the host is no text, or it has neither a user name nor a password that is text;
and this holds of every host without an `@`. -/
theorem isSoleBearer_iff {text : String} {settings : Settings} {payload : Request}
    (parsed : Settings.parseHost text = .ok settings.host) (made : ofSettings settings = .ok c)
    (legal : isHeaderText call.user.token.header = true)
    (hpayload : call.task.payload call.files = .ok payload) (t : Tally)
    (before : List HttpRequest) :
    ∃ r, c.request call.user.token call.task.name payload = .ok r ∧
      IsPost settings.host payload r ∧
      (call.net.reaches r.url = true →
        ∃ rest, (call.execute c t before).delivered = before ++ r :: rest) ∧
      r.values authorizationHeader =
        (settings.host.credentials?.map Url.Credentials.header).toList ++
          [call.user.token.header] ∧
      (r.IsSoleBearer call.user.token ↔
        Url.decodedText? settings.host.username = none ∨
          (settings.host.username = [] ∧ settings.host.password.bind Url.decodedText? = none)) ∧
      ('@' ∉ text.toList → r.IsSoleBearer call.user.token) := by
  obtain ⟨r, hrequest, post, http⟩ := exists_request parsed made legal call.task.name payload
  have hvalues := values_of_request made hrequest
  have hsole : r.IsSoleBearer call.user.token ↔ settings.host.credentials? = none := by
    unfold HttpRequest.IsSoleBearer
    rw [hvalues]
    cases settings.host.credentials? <;> simp [BearerToken.header]
  refine ⟨r, hrequest, post, fun reached => ?_, hvalues, ?_, fun plain => ?_⟩
  · rw [delivered_execute hpayload hrequest t before]
    exact exists_delivered_send http reached before
  · rw [hsole, Url.credentials?_eq_none_iff]
  · obtain ⟨hparse, hhttp⟩ := Settings.exists_parse_of_parseHost parsed
    obtain ⟨hname, hpassword⟩ := Url.userinfo_of_parse hparse hhttp plain
    rw [hsole, Url.credentials?_eq_none_iff, hname, hpassword]
    exact Or.inr ⟨rfl, rfl⟩

/-- The settings of a run against the same machine, by a user with a password. -/
def userSettings : Settings :=
  { localSettings with
    host := { localSettings.host with
      username := "ann".toList
      password := some "pw".toList } }

theorem parseHost_userSettings :
    Settings.parseHost "http://ann:pw@[::1]:4010" = .ok userSettings.host :=
  Settings.parseHost_of_parse (by decide +kernel) rfl

/-- The request of a sample says twice who sends it, because the host names a user. -/
theorem not_isSoleBearer_of_userSettings :
    ∃ (c : Client) (call : Call) (payload : Request) (r : HttpRequest),
      Settings.parseHost "http://ann:pw@[::1]:4010" = .ok userSettings.host ∧
      ofSettings userSettings = .ok c ∧ isHeaderText call.user.token.header = true ∧
      call.task.payload call.files = .ok payload ∧
      c.request call.user.token call.task.name payload = .ok r ∧
      IsPost userSettings.host payload r ∧
      (∃ rest, (call.execute c .empty []).delivered = r :: rest) ∧
      r.values authorizationHeader = ["Basic YW5uOnB3", "Bearer token"] ∧
      ¬r.IsSoleBearer call.user.token := by
  let call : Call :=
    ⟨⟨0, ⟨"token", by decide⟩⟩, .failing, ⟨[], []⟩, .fixed "search" "query" [], 5⟩
  have hpayload : call.task.payload call.files = .ok (Request.ofQuery "query") := rfl
  have legal : isHeaderText call.user.token.header = true := by decide +kernel
  obtain ⟨c, made⟩ := exists_ofSettings parseHost_userSettings
  obtain ⟨r, hrequest, post, hdelivered, hvalues, hsole, -⟩ :=
    isSoleBearer_iff parseHost_userSettings made legal hpayload .empty []
  have hboth : r.values authorizationHeader = ["Basic YW5uOnB3", "Bearer token"] :=
    hvalues.trans (by decide +kernel)
  refine ⟨c, call, _, r, parseHost_userSettings, made, legal, hpayload, hrequest, post,
    hdelivered rfl, hboth, ?_⟩
  rw [hsole]
  decide +kernel

end Client

end QuerySwarm
