import QuerySwarm.Client
import QuerySwarm.Setup.Resolve

/-!
# The endpoint of a host

A host that is accepted is a URL of HTTP: it has a name or an address, and a path that begins with a
slash. So the endpoint can be put under it, and a request can be sent there.

* `Url.parts_of_parse`: what a URL of HTTP is made of.
* `Endpoint.ofHost_eq`: the endpoint of a host that is accepted.
* `Client.exists_request`: the request that a payload is sent with, which fails for nothing but the
  token.
-/

namespace QuerySwarm

namespace Url

/-! ### What a URL of HTTP is made of -/

theorem isSpecial_of_isHttp {scheme : List Char} (h : isHttp scheme = true) :
    isSpecial scheme = true := by
  simp only [isHttp, Bool.or_eq_true, beq_iff_eq] at h
  rcases h with rfl | rfl <;> rfl

theorem not_isFile_of_isHttp {scheme : List Char} (h : isHttp scheme = true) :
    isFile scheme = false := by
  simp only [isHttp, Bool.or_eq_true, beq_iff_eq] at h
  rcases h with rfl | rfl <;> rfl

theorem parseHost_ne_empty {cs : List Char} {host : Host} (h : parseHost cs = .ok host) :
    host ≠ .domain [] := by
  rintro rfl
  unfold parseHost at h
  split at h
  · split at h
    · split at h
      · cases h
      · cases h
    · cases h
  · split at h
    · cases h
    · cases h
    · next name hne _ =>
      -- an empty name was refused above, so this one has characters
      split at h
      · split at h
        · cases h
        · cases h
      · cases h
        exact hne rfl

theorem exists_segments_pathAfterAuthority {scheme : List Char} (special : isSpecial scheme = true)
    (cs : List Char) : ∃ segments, pathAfterAuthority scheme cs = .rooted segments := by
  unfold pathAfterAuthority
  rw [special]
  simp only [Bool.not_true, Bool.and_false, Bool.false_eq_true, if_false]
  exact ⟨_, rfl⟩

theorem parts_of_parseParts {scheme userinfo hostAndPort rest : List Char} {u : Url}
    (h : parseParts scheme userinfo hostAndPort rest = .ok u) (special : isSpecial scheme = true) :
    u.scheme = scheme ∧ (∃ host, u.host = some host ∧ host ≠ .domain []) ∧
      ∃ segments, u.path = .rooted segments := by
  unfold parseParts at h
  dsimp only at h
  split at h
  · cases h
  · split at h
    · cases h
    · next host hhost =>
      split at h
      · cases h
      · split at h
        · cases h
        · split at h
          · cases h
          · cases h
            rw [parseHostOf, if_pos special] at hhost
            exact ⟨rfl, ⟨host, rfl, parseHost_ne_empty hhost⟩,
              exists_segments_pathAfterAuthority special _⟩

/-- What a URL with a special scheme is made of after its slashes. -/
theorem parts_of_parseAuthority {scheme cs : List Char} {u : Url}
    (h : parseAuthority scheme cs = .ok u) (special : isSpecial scheme = true) :
    u.scheme = scheme ∧ (∃ host, u.host = some host ∧ host ≠ .domain []) ∧
      ∃ segments, u.path = .rooted segments := by
  unfold parseAuthority at h
  dsimp only at h
  split at h
  · cases h
  · split at h
    · exact parts_of_parseParts h special
    · exact parts_of_parseParts h special

theorem scheme_of_parseFile {scheme cs : List Char} {u : Url} (h : parseFile scheme cs = .ok u) :
    u.scheme = scheme := by
  unfold parseFile at h
  dsimp only at h
  split at h
  · split at h
    · split at h
      · cases h
        rfl
      · next rest _ _ =>
        cases hhost : parseFileHost (rest.takeWhile fun c => !endsAuthority true c) with
        | error e =>
          rw [hhost] at h
          cases h
        | ok host =>
          rw [hhost] at h
          cases h
          rfl
    · cases h
      rfl
  · cases h
    rfl

theorem scheme_of_parseParts {scheme userinfo hostAndPort rest : List Char} {u : Url}
    (h : parseParts scheme userinfo hostAndPort rest = .ok u) : u.scheme = scheme := by
  unfold parseParts at h
  dsimp only at h
  repeat' split at h
  all_goals cases h
  rfl

theorem scheme_of_parseOther {scheme cs : List Char} {u : Url} (h : parseOther scheme cs = .ok u) :
    u.scheme = scheme := by
  unfold parseOther at h
  dsimp only at h
  split at h
  · unfold parseAuthority at h
    dsimp only at h
    split at h
    · cases h
    · split at h
      · exact scheme_of_parseParts h
      · exact scheme_of_parseParts h
  · cases h
    rfl
  · cases h
    rfl

/-- A URL of HTTP is read from after its slashes. -/
theorem exists_parseAuthority_of_parse {s : String} {u : Url} (h : parse s = .ok u)
    (http : isHttp u.scheme = true) :
    ∃ scheme rest, splitScheme (cleaned s.toList) = some (scheme, rest) ∧
      isSpecial scheme = true ∧ parseAuthority scheme (rest.dropWhile (isSeparator true)) = .ok u := by
  unfold parse at h
  split at h
  · cases h
  · next scheme rest hsplit =>
    split at h
    · next file =>
      -- a file URL keeps its scheme, which is not one of HTTP
      rw [scheme_of_parseFile h] at http
      rw [not_isFile_of_isHttp http] at file
      cases file
    · split at h
      · next special => exact ⟨scheme, rest, hsplit, special, h⟩
      · next special =>
        -- and the schemes of HTTP are special
        rw [scheme_of_parseOther h] at http
        exact absurd (isSpecial_of_isHttp http) special

theorem parts_of_parse {s : String} {u : Url} (h : parse s = .ok u) (http : isHttp u.scheme = true) :
    (∃ host, u.host = some host ∧ host ≠ .domain []) ∧ ∃ segments, u.path = .rooted segments := by
  obtain ⟨scheme, rest, -, special, hauthority⟩ := exists_parseAuthority_of_parse h http
  exact (parts_of_parseAuthority hauthority special).2

/-- A URL with a host is one to which requests can be sent. -/
theorem hasHost_of_host {u : Url} {host : Host} (h : u.host = some host) (hne : host ≠ .domain []) :
    u.hasHost = true := by
  unfold hasHost
  rw [h]
  exact bne_iff_ne.2 hne

end Url

/-! ### The endpoint -/

namespace Endpoint

theorem ofHost_eq {host : Url} (http : Url.isHttp host.scheme = true)
    {segments : List (List Char)} (hpath : host.path = .rooted segments) :
    ofHost host = .ok { host with
      path := .rooted ["searchapi".toList, "graphql".toList]
      query := none
      fragment := none } := by
  have hfile : Url.isFile host.scheme = false := Url.not_isFile_of_isHttp http
  -- only a file URL keeps a drive in front of what is joined to it
  have hdrive : host.keptDrive = [] := by
    unfold Url.keptDrive
    rw [hpath, hfile]
    cases segments <;> rfl
  have hsegments : Url.resolveDots false []
      (Url.splitSegments true (Url.dropSeparator true path.toList)) =
        ["searchapi".toList, "graphql".toList] := by decide +kernel
  unfold ofHost Url.join
  rw [hpath]
  dsimp only
  rw [hfile, hdrive, Url.isSpecial_of_isHttp http, hsegments]
  rfl

end Endpoint

/-! ### Requests to the endpoint -/

/-- A request that carries a payload to the endpoint of a host. -/
structure IsPost (base : Url) (payload : Request) (r : HttpRequest) : Prop where
  method : r.method = .post
  scheme : r.url.scheme = base.scheme
  host : r.url.host = base.host
  port : r.url.port = base.port
  path : r.url.path.chars = Endpoint.path.toList
  body : r.body = bytesOf payload.body

/-- A host that is accepted is a URL of HTTP. -/
theorem Settings.exists_parse_of_parseHost {text : String} {host : Url}
    (h : Settings.parseHost text = .ok host) :
    Url.parse text = .ok host ∧ Url.isHttp host.scheme = true := by
  unfold Settings.parseHost at h
  split at h
  · cases h
  · next url hparse =>
    split at h
    · next http =>
      cases h
      exact ⟨hparse, http⟩
    · cases h

/-- The settings of a run with one user against the same machine. -/
def localSettings : Settings where
  host := ⟨"http".toList, [], none, some (.ipv6 [0, 0, 0, 0, 0, 0, 0, 1]), some 4010, .rooted [[]],
    none, none⟩
  users := 1
  spawnRate := 1
  thinkTime := ⟨1, 2⟩
  duration := .ofSeconds 60
  requestTimeout := .ofSeconds 60
  reportInterval := 0
  reportPath := none
  tagOperations := false
  debugResponses := false
  validateResponses := false

theorem exists_eq_ok_of_isOk {ε α : Type} {x : Except ε α} (h : x.isOk = true) :
    ∃ a, x = .ok a := by
  cases x with
  | ok a => exact ⟨a, rfl⟩
  | error e => cases h

theorem eq_ok_of_toOption {ε α : Type} {x : Except ε α} {a : α} (h : x.toOption = some a) :
    x = .ok a := by
  cases x with
  | ok b =>
    cases h
    rfl
  | error e => cases h

theorem Settings.parseHost_of_parse {text : String} {url : Url}
    (parsed : (Url.parse text).toOption = some url) (hscheme : Url.isHttp url.scheme = true) :
    Settings.parseHost text = .ok url := by
  rw [Settings.parseHost, eq_ok_of_toOption parsed]
  exact if_pos hscheme

theorem parseHost_localSettings :
    Settings.parseHost "http://[::1]:4010" = .ok localSettings.host :=
  Settings.parseHost_of_parse (by decide +kernel) rfl

/-- Taking the credentials out of a URL leaves where it leads to. -/
theorem HttpRequest.url_ofUrl_parts (method : HttpMethod) (url : Url) (body : Bytes) :
    (HttpRequest.ofUrl method url body).url.scheme = url.scheme ∧
      (HttpRequest.ofUrl method url body).url.host = url.host ∧
      (HttpRequest.ofUrl method url body).url.port = url.port ∧
      (HttpRequest.ofUrl method url body).url.path = url.path := by
  unfold HttpRequest.ofUrl
  split <;> exact ⟨rfl, rfl, rfl, rfl⟩

namespace Client

theorem urlFor_parts (c : Client) (operation : String) :
    (c.urlFor operation).scheme = c.endpoint.scheme ∧
      (c.urlFor operation).host = c.endpoint.host ∧
      (c.urlFor operation).port = c.endpoint.port ∧
      (c.urlFor operation).path = c.endpoint.path := by
  unfold urlFor Endpoint.urlFor
  split <;> exact ⟨rfl, rfl, rfl, rfl⟩

/-- The endpoint of a host that is accepted is under its origin, and requests can be sent there. -/
theorem endpoint_parts {text : String} {settings : Settings} {c : Client}
    (parsed : Settings.parseHost text = .ok settings.host) (made : ofSettings settings = .ok c) :
    c.endpoint.scheme = settings.host.scheme ∧ c.endpoint.host = settings.host.host ∧
      c.endpoint.port = settings.host.port ∧ c.endpoint.path.chars = Endpoint.path.toList ∧
      c.endpoint.hasHost = true ∧ Url.isHttp c.endpoint.scheme = true := by
  obtain ⟨hparse, http⟩ := Settings.exists_parse_of_parseHost parsed
  obtain ⟨⟨host, hhost, hne⟩, segments, hpath⟩ := Url.parts_of_parse hparse http
  unfold ofSettings at made
  rw [Endpoint.ofHost_eq http hpath] at made
  cases made
  exact ⟨rfl, rfl, rfl, rfl, Url.hasHost_of_host hhost hne, http⟩

/-- For a host that is accepted there is a client, whatever the options are. -/
theorem exists_ofSettings {text : String} {settings : Settings}
    (parsed : Settings.parseHost text = .ok settings.host) :
    ∃ c, ofSettings settings = .ok c := by
  obtain ⟨hparse, http⟩ := Settings.exists_parse_of_parseHost parsed
  obtain ⟨-, segments, hpath⟩ := Url.parts_of_parse hparse http
  unfold ofSettings
  rw [Endpoint.ofHost_eq http hpath]
  exact ⟨_, rfl⟩

/-- Nothing but the host and the token can keep a payload from being sent. -/
theorem request_eq {c : Client} {token : BearerToken} (hhost : c.endpoint.hasHost = true)
    (legal : isHeaderText token.header = true) (operation : String) (payload : Request) :
    c.request token operation payload =
      .ok (((HttpRequest.ofUrl .post (c.urlFor operation) (bytesOf payload.body)).add
        authorizationHeader token.header).add contentTypeHeader contentType) := by
  have hurl : (c.urlFor operation).hasHost = true := by
    unfold Url.hasHost
    rw [(c.urlFor_parts operation).2.1]
    exact hhost
  unfold request
  simp only [hurl, legal, Bool.not_true, Bool.false_eq_true, if_false]

/-- With a host that is accepted and a token that can be a header, every payload has its request. -/
theorem exists_request {text : String} {settings : Settings} {c : Client} {token : BearerToken}
    (parsed : Settings.parseHost text = .ok settings.host) (made : ofSettings settings = .ok c)
    (legal : isHeaderText token.header = true) (operation : String) (payload : Request) :
    ∃ r, c.request token operation payload = .ok r ∧ IsPost settings.host payload r ∧
      Url.isHttp r.url.scheme = true := by
  obtain ⟨escheme, ehost, eport, epath, ehas, ehttp⟩ := endpoint_parts parsed made
  obtain ⟨cscheme, chost, cport, cpath⟩ := c.urlFor_parts operation
  obtain ⟨uscheme, uhost, uport, upath⟩ :=
    HttpRequest.url_ofUrl_parts .post (c.urlFor operation) (bytesOf payload.body)
  have hrequest := request_eq ehas legal operation payload
  refine ⟨_, hrequest, ⟨(body_of_request hrequest).1, ?_, ?_, ?_, ?_, (body_of_request hrequest).2⟩,
    ?_⟩
  · exact uscheme.trans (cscheme.trans escheme)
  · exact uhost.trans (chost.trans ehost)
  · exact uport.trans (cport.trans eport)
  · show (HttpRequest.ofUrl _ _ _).url.path.chars = _
    rw [upath, cpath]
    exact epath
  · show Url.isHttp (HttpRequest.ofUrl _ _ _).url.scheme = true
    rw [uscheme, cscheme]
    exact ehttp

end Client

end QuerySwarm
