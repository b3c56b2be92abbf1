import QuerySwarm.Proofs.Client.Credentials
import QuerySwarm.Proofs.Text.Utf8

/-!
# Tokens that can be sent

A token is any text that is not blank, but a header holds no control characters apart from tabs.
Blanks at the ends of a token are taken off, and a line break at its end with them; what stands inside
is not looked at until the first request is made. So a token with a line break inside starts a run of
which no request is ever sent.

* `isHeaderText_iff`: what a header can hold, character by character.
* `TokenSource.exists_text?_of_resolve`: every source gives the token of the text there.
* `Client.isSent_iff`: which tokens are sent, and what becomes of a sample with another one.
-/

namespace QuerySwarm

/-! ### What a header can hold -/

/-- Whether a header can hold a character: a tab, or no control character of ASCII. -/
def isHeaderChar (c : Char) : Bool :=
  c == '\t' || (decide (32 ≤ c.toNat) && c.toNat != 127)

/-- Whether a header can hold a byte. -/
def isHeaderByte (b : UInt8) : Bool := b == 9 || (decide (32 ≤ b.toNat) && b != 127)

theorem all_encodeChar_iff (c : Char) :
    (Utf8.encodeChar c).all isHeaderByte = true ↔ isHeaderChar c = true := by
  by_cases hascii : c.toNat < 128
  · -- the character is its only byte
    rw [Utf8.encodeChar_of_lt hascii, List.all_cons, List.all_nil, Bool.and_true]
    have hbyte : (UInt8.ofNat c.toNat).toNat = c.toNat := Utf8.toNat_ofNat_byte _ (by omega)
    have htab : UInt8.ofNat c.toNat = 9 ↔ c = '\t' := by
      rw [← UInt8.toNat_inj, hbyte, ← Char.toNat_inj]
      rfl
    have hdelete : UInt8.ofNat c.toNat = 127 ↔ c.toNat = 127 := by
      rw [← UInt8.toNat_inj, hbyte]
      rfl
    simp [isHeaderByte, isHeaderChar, hbyte, htab, hdelete]
  · have hchar : isHeaderChar c = true := by
      simp only [isHeaderChar, Bool.or_eq_true, Bool.and_eq_true, decide_eq_true_eq, bne_iff_ne]
      exact .inr ⟨by omega, by omega⟩
    rw [hchar, List.all_eq_true]
    refine ⟨fun _ => rfl, fun _ b hb => ?_⟩
    have hb := Utf8.of_mem_encodeChar hb
    have hne : b ≠ 127 := by
      rintro rfl
      exact absurd (hb.resolve_left fun h => hascii h.1).2 (by decide)
    simp only [isHeaderByte, Bool.or_eq_true, Bool.and_eq_true, decide_eq_true_eq, bne_iff_ne]
    exact .inr ⟨by omega, hne⟩

/-- A text can be the value of a header if a header can hold each of its characters. -/
theorem isHeaderText_iff (s : String) :
    isHeaderText s = true ↔ ∀ c ∈ s.toList, isHeaderChar c = true := by
  show ((s.toList.flatMap Utf8.encodeChar).all isHeaderByte) = true ↔ _
  rw [List.all_flatMap, List.all_eq_true]
  exact forall₂_congr fun c _ => all_encodeChar_iff c

namespace BearerToken

/-- The characters of a token decide whether it can be sent. -/
theorem isHeaderText_header_iff (t : BearerToken) :
    isHeaderText t.header = true ↔ ∀ c ∈ t.text.toList, isHeaderChar c = true := by
  have hscheme : ∀ c ∈ "Bearer ".toList, isHeaderChar c = true := List.all_eq_true.1 (by decide)
  rw [isHeaderText_iff, header, String.toList_append, List.forall_mem_append]
  exact and_iff_right hscheme

end BearerToken

/-- The text that a token is to be in: the value of a variable, or all of a file. -/
def TokenSource.text? (source : TokenSource) (env : Environment) (files : Files) : Option String :=
  match source with
  | .environment name => env.text? name
  | .file path => (files.readText path).toOption

/-- A token that comes from a variable or from a file is the token of the text there. -/
theorem TokenSource.exists_text?_of_resolve {source : TokenSource} {env : Environment}
    {files : Files} {token : BearerToken} (h : source.resolve env files = .ok token) :
    ∃ raw, source.text? env files = some raw ∧ BearerToken.ofText? raw = some token := by
  cases source with
  | environment name =>
    simp only [resolve, lookup] at h
    split at h
    · next found hfound =>
      cases h
      exact Option.bind_eq_some_iff.1 hfound
    · cases h
  | file path =>
    simp only [resolve, read] at h
    split at h
    · cases h
    · next raw hread =>
      split at h
      · next found hfound =>
        cases h
        exact ⟨raw, by rw [text?, hread]; rfl, hfound⟩
      · cases h

/-! ### What is sent -/

/-- The request that carries a payload to a host was delivered, after those before it. -/
def IsSent (base : Url) (payload : Request) (before : List HttpRequest) (s : Sampled) : Prop :=
  ∃ r rest, IsPost base payload r ∧ s.delivered = before ++ r :: rest

namespace Client

variable {c : Client} {call : Call} {settings : Settings} {text : String}

/-- With a token that cannot be a header there is no request. -/
theorem request_of_not_isHeaderText {token : BearerToken}
    (parsed : Settings.parseHost text = .ok settings.host) (made : ofSettings settings = .ok c)
    (illegal : isHeaderText token.header = false) (operation : String) (payload : Request) :
    c.request token operation payload = .error (.unsendable none) := by
  obtain ⟨-, -, -, -, hhost, -⟩ := endpoint_parts parsed made
  have hurl : (c.urlFor operation).hasHost = true := by
    unfold Url.hasHost
    rw [(c.urlFor_parts operation).2.1]
    exact hhost
  unfold request
  simp only [hurl, illegal, Bool.not_true, Bool.not_false, Bool.false_eq_true, if_false, if_true]

theorem isSent_of_isHeaderText {payload : Request}
    (parsed : Settings.parseHost text = .ok settings.host) (made : ofSettings settings = .ok c)
    (legal : isHeaderText call.user.token.header = true)
    (hpayload : call.task.payload call.files = .ok payload)
    (reached : ∀ url, call.net.reaches url = true) (t : Tally) (before : List HttpRequest) :
    IsSent settings.host payload before (call.execute c t before) := by
  obtain ⟨r, hrequest, post, http⟩ := exists_request parsed made legal call.task.name payload
  obtain ⟨rest, hrest⟩ := exists_delivered_send http (reached r.url) before
  exact ⟨r, rest, post, (delivered_execute hpayload hrequest t before).trans hrest⟩

theorem execute_of_not_isHeaderText {payload : Request}
    (parsed : Settings.parseHost text = .ok settings.host) (made : ofSettings settings = .ok c)
    (illegal : isHeaderText call.user.token.header = false)
    (hpayload : call.task.payload call.files = .ok payload) (t : Tally)
    (before : List HttpRequest) :
    (call.execute c t before).result = .error (.transport (.unsendable none)) ∧
      (call.execute c t before).delivered = before := by
  have hrequest := request_of_not_isHeaderText parsed made illegal call.task.name payload
  simp only [Call.execute, User.execute, perform_of_request_error hpayload hrequest, and_true]
  rfl

/-- Whatever text a token is from, and with any host that is accepted, any payload and a server that
can be reached: the token can be a header, and the request of a sample is sent, exactly if the text
has no control characters but tabs between its first and its last character that is no blank. If it
has one, the sample fails without having sent anything. In the same way the text of a variable or of
a file decides, if it is from there that the token was resolved. -/
theorem isSent_iff {raw : String} {payload : Request}
    (given : BearerToken.ofText? raw = some call.user.token)
    (parsed : Settings.parseHost text = .ok settings.host) (made : ofSettings settings = .ok c)
    (hpayload : call.task.payload call.files = .ok payload)
    (reached : ∀ url, call.net.reaches url = true) (t : Tally) (before : List HttpRequest) :
    (isHeaderText call.user.token.header = true ↔
      ∀ char ∈ Text.trim raw.toList, isHeaderChar char = true) ∧
    (IsSent settings.host payload before (call.execute c t before) ↔
      ∀ char ∈ Text.trim raw.toList, isHeaderChar char = true) ∧
    ((∃ char ∈ Text.trim raw.toList, isHeaderChar char = false) →
      (call.execute c t before).result = .error (.transport (.unsendable none)) ∧
        (call.execute c t before).delivered = before) ∧
    ∀ (source : TokenSource) (env : Environment) (files : Files),
      source.resolve env files = .ok call.user.token →
      ∃ found, source.text? env files = some found ∧
        (IsSent settings.host payload before (call.execute c t before) ↔
          ∀ char ∈ Text.trim found.toList, isHeaderChar char = true) := by
  have hlegal : isHeaderText call.user.token.header = true ↔
      ∀ char ∈ Text.trim raw.toList, isHeaderChar char = true := by
    rw [BearerToken.isHeaderText_header_iff, BearerToken.text_of_ofText? given, String.toList_ofList]
  have hsent : IsSent settings.host payload before (call.execute c t before) ↔
      ∀ char ∈ Text.trim raw.toList, isHeaderChar char = true := by
    constructor
    · intro sent
      refine hlegal.1 (Bool.of_not_eq_false fun illegal => ?_)
      obtain ⟨r, rest, -, hdelivered⟩ := sent
      rw [(execute_of_not_isHeaderText parsed made illegal hpayload t before).2] at hdelivered
      exact absurd (List.self_eq_append_right.1 hdelivered) (List.cons_ne_nil _ _)
    · intro legal
      exact isSent_of_isHeaderText parsed made (hlegal.2 legal) hpayload reached t before
  refine ⟨hlegal, hsent, fun illegal => ?_, fun source env files resolved => ?_⟩
  · obtain ⟨char, hchar, hfalse⟩ := illegal
    refine execute_of_not_isHeaderText parsed made (Bool.of_not_eq_true fun legal => ?_) hpayload t
      before
    rw [hlegal.1 legal char hchar] at hfalse
    cases hfalse
  · obtain ⟨found, htext, hfound⟩ := TokenSource.exists_text?_of_resolve resolved
    -- both texts are the token, but for what is taken off
    have hsame : Text.trim raw.toList = Text.trim found.toList := by
      have htrimmed := (BearerToken.text_of_ofText? given).symm.trans
        (BearerToken.text_of_ofText? hfound)
      exact String.ofList_injective htrimmed
    exact ⟨found, htext, hsame ▸ hsent⟩

/-- A file with a token on each of two lines is taken for one token, and nothing is sent with it. -/
theorem not_isSent_of_two_lines :
    ∃ (token : BearerToken) (c : Client) (call : Call) (payload : Request),
      (TokenSource.file "/token").resolve ⟨[]⟩
        ⟨[(["token"], .file (bytesOf "first\nsecond\n"))], []⟩ = .ok token ∧
      BearerToken.ofText? "first\nsecond\n" = some token ∧ call.user.token = token ∧
      Settings.parseHost "http://[::1]:4010" = .ok localSettings.host ∧
      ofSettings localSettings = .ok c ∧ call.task.payload call.files = .ok payload ∧
      (∀ url, call.net.reaches url = true) ∧ isHeaderText token.header = false ∧
      ¬IsSent localSettings.host payload [] (call.execute c .empty []) ∧
      (call.execute c .empty []).result = .error (.transport (.unsendable none)) := by
  let token : BearerToken := ⟨"first\nsecond", by decide⟩
  let call : Call := ⟨⟨0, token⟩, .failing, ⟨[], []⟩, .fixed "search" "query" [], 5⟩
  have given : BearerToken.ofText? "first\nsecond\n" = some call.user.token := by decide +kernel
  have hpayload : call.task.payload call.files = .ok (Request.ofQuery "query") := rfl
  have reached : ∀ url, call.net.reaches url = true := fun _ => rfl
  have hbreak : ∃ char ∈ Text.trim "first\nsecond\n".toList, isHeaderChar char = false :=
    ⟨'\n', by decide +kernel, rfl⟩
  obtain ⟨c, made⟩ := exists_ofSettings parseHost_localSettings
  obtain ⟨hlegal, hsent, hfailed, -⟩ :=
    isSent_iff given parseHost_localSettings made hpayload reached .empty []
  have hnot : ¬∀ char ∈ Text.trim "first\nsecond\n".toList, isHeaderChar char = true := by
    obtain ⟨char, hchar, hfalse⟩ := hbreak
    intro h
    rw [h char hchar] at hfalse
    cases hfalse
  have hread : ((TokenSource.file "/token").resolve ⟨[]⟩
      ⟨[(["token"], .file (bytesOf "first\nsecond\n"))], []⟩).toOption = some token := by
    decide +kernel
  exact ⟨token, c, call, _, eq_ok_of_toOption hread, given, rfl, parseHost_localSettings, made,
    hpayload, reached, Bool.of_not_eq_true (mt hlegal.1 hnot), mt hsent.1 hnot,
    (hfailed hbreak).1⟩

end Client

end QuerySwarm
