import QuerySwarm.Proofs.Client.Legality
import QuerySwarm.Proofs.Url.Form

/-!
# Where requests go

Whatever the host is that is accepted, its path, its query and its fragment are gone from the endpoint,
and all else is kept. A tag puts one pair into the query and changes nothing else; it can be read
back from the query, whatever the name of the task is, so that tasks with different names have
different URLs.

* `Endpoint.IsUnder`: what the endpoint has of its host.
* `Client.urls_of_host`: the URLs of all tasks, and that they are those requests are sent to.
-/

namespace QuerySwarm

/-- A URL that has the origin of a host and the user in it, and a path of its own. -/
structure Endpoint.IsUnder (base endpoint : Url) : Prop where
  scheme : endpoint.scheme = base.scheme
  username : endpoint.username = base.username
  password : endpoint.password = base.password
  host : endpoint.host = base.host
  port : endpoint.port = base.port
  path : endpoint.path.chars = "/searchapi/graphql".toList
  query : endpoint.query = none
  fragment : endpoint.fragment = none

/-- Taking the credentials out of a URL leaves all else. -/
theorem HttpRequest.withoutUserinfo_ofUrl (method : HttpMethod) (url : Url) (body : Bytes) :
    (HttpRequest.ofUrl method url body).url.withoutUserinfo = url.withoutUserinfo := by
  unfold HttpRequest.ofUrl
  split <;> rfl

namespace Client

variable {c : Client} {call : Call} {settings : Settings} {text : String}

theorem isUnder_of_parseHost (parsed : Settings.parseHost text = .ok settings.host)
    (made : ofSettings settings = .ok c) : Endpoint.IsUnder settings.host c.endpoint := by
  obtain ⟨-, -, -, hpath, -, -⟩ := endpoint_parts parsed made
  unfold ofSettings at made
  split at made
  · cases made
  · next endpoint hhost =>
    cases made
    obtain ⟨hscheme, husername, hpassword, hhost, hport, hquery, hfragment⟩ :=
      Endpoint.ofHost_origin hhost
    exact ⟨hscheme, husername, hpassword, hhost, hport, hpath, hquery, hfragment⟩

theorem tagOperations_of_made (made : ofSettings settings = .ok c) :
    c.tagOperations = settings.tagOperations := by
  unfold ofSettings at made
  split at made
  · cases made
  · cases made
    rfl

/-- The URL of a task with its tag, where the endpoint has no query. -/
theorem urlFor_of_tagged (tagged : c.tagOperations = true) (plain : c.endpoint.query = none)
    (operation : String) :
    c.urlFor operation =
      { c.endpoint with query := some (Url.formPair Endpoint.tag operation) } := by
  unfold urlFor Endpoint.urlFor Url.appendPair
  rw [if_pos tagged, plain]

/-- The request of a sample goes to the URL of its task; only the user is taken out of it. -/
theorem url_of_request {token : BearerToken} {operation : String} {payload : Request}
    {r : HttpRequest} (h : c.request token operation payload = .ok r) :
    r.url.withoutUserinfo = (c.urlFor operation).withoutUserinfo := by
  unfold request at h
  dsimp only at h
  split at h
  · cases h
  · split at h
    · cases h
    · cases h
      exact HttpRequest.withoutUserinfo_ofUrl .post _ _

/-- For every host that is accepted there is a client, whose endpoint is under the host. Without tags
every task has the endpoint as its URL. With tags the URL of a task differs from the endpoint by a
query that is decoded to the one pair of the tag, so that tasks with different names have different
URLs. And whatever was sent before, the request of a sample is sent to the URL of its task. -/
theorem urls_of_host (parsed : Settings.parseHost text = .ok settings.host) :
    ∃ c, ofSettings settings = .ok c ∧ Endpoint.IsUnder settings.host c.endpoint ∧
      (settings.tagOperations = false → ∀ operation, c.urlFor operation = c.endpoint) ∧
      (settings.tagOperations = true →
        (∀ operation, ∃ query, c.urlFor operation = { c.endpoint with query := some query } ∧
          Url.formPairs query = [("op", operation)] ∧ '#' ∉ query) ∧
        ∀ operation operation', (c.urlFor operation).text = (c.urlFor operation').text →
          operation = operation') ∧
      ∀ {call : Call} {payload : Request}, isHeaderText call.user.token.header = true →
        call.task.payload call.files = .ok payload → (∀ url, call.net.reaches url = true) →
        ∀ t before, ∃ r rest, (call.execute c t before).delivered = before ++ r :: rest ∧
          r.url.withoutUserinfo = (c.urlFor call.task.name).withoutUserinfo := by
  obtain ⟨c, made⟩ := exists_ofSettings parsed
  have under := isUnder_of_parseHost parsed made
  have htag := tagOperations_of_made made
  refine ⟨c, made, under, fun untagged operation => ?_, fun tagged => ?_, ?_⟩
  · unfold urlFor
    rw [htag, untagged]
    exact Endpoint.urlFor_of_not_tagged _ _
  · have hurl := urlFor_of_tagged (htag.trans tagged) under.query
    refine ⟨fun operation => ⟨_, hurl operation, Url.formPairs_formPair _ _, fun hmem => ?_⟩,
      fun operation operation' hsame => ?_⟩
    · exact (Url.of_mem_formPair hmem).2 rfl
    · rw [hurl, hurl] at hsame
      exact Url.value_of_text hsame
  · intro call payload legal hpayload reached t before
    obtain ⟨r, hrequest, -, http⟩ := exists_request parsed made legal call.task.name payload
    obtain ⟨rest, hrest⟩ := exists_delivered_send http (reached r.url) before
    exact ⟨r, rest, (delivered_execute hpayload hrequest t before).trans hrest,
      url_of_request hrequest⟩

/-- The settings of a run with tags, against a host with a user, a path, a query and a fragment. -/
def taggedSettings : Settings :=
  { localSettings with
    host := ⟨"https".toList, "ann".toList, some "p%20w".toList,
      some (.ipv6 [0, 0, 0, 0, 0, 0, 0, 1]), some 4010, .rooted ["console".toList, []],
      some "op=x".toList, some "top".toList⟩
    tagOperations := true }

theorem parseHost_taggedSettings :
    Settings.parseHost "https://ann:p w@[::1]:4010/console/?op=x#top" =
      .ok taggedSettings.host :=
  Settings.parseHost_of_parse (by decide +kernel) rfl

theorem urls_of_taggedSettings :
    ∃ c, ofSettings taggedSettings = .ok c ∧ Endpoint.IsUnder taggedSettings.host c.endpoint ∧
      (∃ query, c.urlFor "a&op=b+c%20#é " = { c.endpoint with query := some query } ∧
        Url.formPairs query = [("op", "a&op=b+c%20#é ")] ∧ '#' ∉ query) ∧
      (c.urlFor "").text ≠ (c.urlFor " ").text ∧
      ∃ r rest, (Call.execute ⟨⟨0, ⟨"token", by decide⟩⟩, .failing, ⟨[], []⟩,
          .fixed "search" "query" [], 5⟩ c .empty []).delivered = r :: rest ∧
        r.url.withoutUserinfo = (c.urlFor "search").withoutUserinfo := by
  obtain ⟨c, made, under, -, tagged, sent⟩ := urls_of_host parseHost_taggedSettings
  obtain ⟨hpair, htext⟩ := tagged rfl
  have hpayload : (Task.fixed "search" "query" []).payload ⟨[], []⟩ = .ok (.ofQuery "query") := rfl
  exact ⟨c, made, under, hpair _, mt (htext "" " ") (by decide),
    sent (by decide +kernel) hpayload (fun _ => rfl) .empty []⟩

end Client

end QuerySwarm
