import QuerySwarm.LoadTest
import QuerySwarm.Proofs.Endpoint

/-!
# Rules for settings

The settings of a run are put together from options, or built by hand and given to a load test. Both
ways lead through one check, of all that becomes a number of users, a timer or a deadline. The
scheme of the host is not part of it: it is looked at where the host is read from an option, and
nowhere else.

* `Settings.check_eq_ok_iff_isInOrder`: what the check asks for.
* `Settings.ofProfile_eq_ok_iff`: settings from options obey every rule, and nothing else is asked
  of them.
* `LoadTest.isAdmissible_iff_scheme`: settings in a load test obey every rule but that of the
  scheme.
-/

namespace QuerySwarm

/-! ### Comparing finite numbers -/

theorem Binary64.le_eq_not_lt {x y : Binary64} (hx : x.isFinite = true) (hy : y.isFinite = true) :
    x.le y = !y.lt x := by
  cases x with
  | nan => cases hx
  | infinity negative => cases hx
  | finite n a ha =>
    cases y with
    | nan => cases hy
    | infinity negative => cases hy
    | finite m b hb =>
      simp only [le, lt, ← decide_not, Int.not_lt]

/-! ### The rules -/

namespace ThinkTime

/-- The bounds of a wait are numbers of seconds in order, and the longest wait is a span of time. -/
structure IsInOrder (t : ThinkTime) : Prop where
  finite : t.min.isFinite = true ∧ t.max.isFinite = true
  nonneg : (0 : Binary64).le t.min = true
  ordered : t.min.le t.max = true
  span : ∃ longest, Duration.ofSeconds? t.max = some longest

theorem check_eq_ok_iff_isInOrder (t : ThinkTime) : t.check = .ok () ↔ t.IsInOrder := by
  have hzero : (0 : Binary64).isFinite = true := by decide +kernel
  rw [check_eq_ok_iff, hasBounds, Bool.and_eq_true, Bool.and_eq_true, Option.isSome_iff_exists]
  constructor
  · rintro ⟨⟨⟨hmin, hmax⟩, hnonneg⟩, hordered, hspan⟩
    refine ⟨⟨hmin, hmax⟩, ?_, ?_, hspan⟩
    · rw [Binary64.le_eq_not_lt hzero hmin]
      exact hnonneg
    · rw [Binary64.le_eq_not_lt hmin hmax, hordered]
      rfl
  · rintro ⟨⟨hmin, hmax⟩, hnonneg, hordered, hspan⟩
    rw [Binary64.le_eq_not_lt hzero hmin] at hnonneg
    rw [Binary64.le_eq_not_lt hmin hmax, Bool.not_eq_true'] at hordered
    exact ⟨⟨⟨hmin, hmax⟩, hnonneg⟩, hordered, hspan⟩

theorem ofBounds_eq_ok_iff {min max : Binary64} {t : ThinkTime} :
    ofBounds min max = .ok t ↔ t = ⟨min, max⟩ ∧ t.IsInOrder := by
  rw [← check_eq_ok_iff_isInOrder]
  constructor
  · intro h
    unfold ofBounds at h
    split at h
    · next hcheck =>
      cases h
      exact ⟨rfl, hcheck⟩
    · cases h
  · rintro ⟨rfl, hcheck⟩
    rw [ofBounds, hcheck]

end ThinkTime

theorem Url.isHttp_iff (scheme : List Char) :
    isHttp scheme = true ↔ scheme = "http".toList ∨ scheme = "https".toList := by
  simp [isHttp]

namespace Settings

/-- There are users, and whatever becomes a timer or a deadline is one that the clock can reach. -/
structure IsInOrder (s : Settings) (clock : Clock) : Prop where
  users : 1 ≤ s.users
  rate : s.spawnRate.isFinite = true ∧ (0 : Binary64).lt s.spawnRate = true
  interval : ∃ d, Duration.ofSeconds? (1 / s.spawnRate) = some d ∧ clock.canAdd d = true
  thinkTime : s.thinkTime.IsInOrder
  requestTimeout : s.requestTimeout ≠ .zero
  duration : clock.canAdd s.duration = true

/-- The settings are in order, and requests to the host are requests of HTTP. -/
structure IsAdmissible (s : Settings) (clock : Clock) : Prop extends s.IsInOrder clock where
  scheme : s.host.scheme = "http".toList ∨ s.host.scheme = "https".toList

theorem exists_spawnInterval_iff (s : Settings) (clock : Clock) :
    (∃ interval, s.spawnInterval clock = .ok interval) ↔
      (s.spawnRate.isFinite = true ∧ (0 : Binary64).lt s.spawnRate = true) ∧
        ∃ d, Duration.ofSeconds? (1 / s.spawnRate) = some d ∧ clock.canAdd d = true := by
  have hfilter : (∃ d, Duration.ofSeconds? (1 / s.spawnRate) = some d ∧ clock.canAdd d = true) ↔
      ∃ d, (Duration.ofSeconds? (1 / s.spawnRate)).filter clock.canAdd = some d := by
    simp only [Option.filter_eq_some_iff]
  rw [hfilter, ← Bool.and_eq_true, spawnInterval]
  cases s.spawnRate.isFinite && (0 : Binary64).lt s.spawnRate with
  | false => simp
  | true => cases (Duration.ofSeconds? (1 / s.spawnRate)).filter clock.canAdd <;> simp

theorem check_eq_ok_iff_isInOrder (s : Settings) (clock : Clock) :
    s.check clock = .ok () ↔ s.IsInOrder clock := by
  rw [check_eq_ok_iff, exists_spawnInterval_iff, ThinkTime.check_eq_ok_iff_isInOrder]
  constructor
  · rintro ⟨husers, ⟨hrate, hinterval⟩, hthink, htimeout, hduration⟩
    exact ⟨Nat.one_le_iff_ne_zero.2 husers, hrate, hinterval, hthink, htimeout, hduration⟩
  · rintro ⟨husers, hrate, hinterval, hthink, htimeout, hduration⟩
    exact ⟨Nat.one_le_iff_ne_zero.1 husers, ⟨hrate, hinterval⟩, hthink, htimeout, hduration⟩

theorem parseHost_eq_ok_iff {text : String} {url : Url} :
    parseHost text = .ok url ↔
      Url.parse text = .ok url ∧ (url.scheme = "http".toList ∨ url.scheme = "https".toList) := by
  rw [← Url.isHttp_iff]
  refine ⟨exists_parse_of_parseHost, fun ⟨hparse, http⟩ => ?_⟩
  rw [parseHost, hparse]
  exact if_pos http

/-- The bounds of a wait that options and a profile make together. -/
def boundsOf (o : RunOptions) (profile : LoadProfile) : ThinkTime :=
  ⟨o.minWait.getD profile.thinkTime.min, o.maxWait.getD profile.thinkTime.max⟩

/-- Options and a profile give settings exactly if the host is a URL and what they make together is
admissible. -/
theorem ofProfile_eq_ok_iff {clock : Clock} {o : RunOptions} {profile : LoadProfile}
    {s : Settings} :
    ofProfile clock o profile = .ok s ↔
      ∃ url, Url.parse o.host = .ok url ∧ s = assemble o profile (boundsOf o profile) url ∧
        s.IsAdmissible clock := by
  constructor
  · intro h
    unfold ofProfile at h
    split at h
    · cases h
    · next thinkTime hbounds =>
      obtain ⟨rfl, -⟩ := ThinkTime.ofBounds_eq_ok_iff.1 hbounds
      split at h
      · cases h
      · next host hhost =>
        obtain ⟨hparse, hscheme⟩ := parseHost_eq_ok_iff.1 hhost
        dsimp only at h
        split at h
        · cases h
        · next hcheck =>
          cases h
          exact ⟨host, hparse, rfl, (check_eq_ok_iff_isInOrder _ _).1 hcheck, hscheme⟩
  · rintro ⟨url, hparse, rfl, admissible⟩
    have hbounds : ThinkTime.ofBounds (o.minWait.getD profile.thinkTime.min)
        (o.maxWait.getD profile.thinkTime.max) = .ok (boundsOf o profile) :=
      ThinkTime.ofBounds_eq_ok_iff.2 ⟨rfl, admissible.thinkTime⟩
    have hhost : parseHost o.host = .ok url := parseHost_eq_ok_iff.2 ⟨hparse, admissible.scheme⟩
    have hcheck := (check_eq_ok_iff_isInOrder _ _).2 admissible.toIsInOrder
    unfold ofProfile
    rw [hbounds]
    dsimp only
    rw [hhost]
    dsimp only
    rw [hcheck]

end Settings

/-- There is a client exactly if the endpoint can be joined to the host. -/
theorem Client.exists_ofSettings_iff (settings : Settings) :
    (∃ client, Client.ofSettings settings = .ok client) ↔
      ∃ endpoint, Endpoint.ofHost settings.host = .ok endpoint := by
  unfold Client.ofSettings
  cases Endpoint.ofHost settings.host <;> simp

namespace LoadTest

/-- What settings and tasks a load test is made with. -/
theorem make_eq_ok_iff {clock : Clock} {settings : Settings} {tasks : TaskSet}
    {token : BearerToken} {test : LoadTest} :
    make clock settings tasks token = .ok test ↔
      tasks.isEmpty = false ∧ settings.IsInOrder clock ∧
        ∃ client, Client.ofSettings settings = .ok client ∧
          test = ⟨settings, client, tasks, token⟩ := by
  rw [← Settings.check_eq_ok_iff_isInOrder]
  constructor
  · intro h
    unfold make at h
    split at h
    · cases h
    · next hempty =>
      split at h
      · cases h
      · next hcheck =>
        split at h
        · cases h
        · next client hclient =>
          cases h
          exact ⟨Bool.eq_false_iff.2 hempty, hcheck, client, hclient, rfl⟩
  · rintro ⟨hempty, hcheck, client, hclient, rfl⟩
    rw [make, hempty, if_neg Bool.false_ne_true, hcheck, hclient]

/-- Settings that are built by hand have to be in order, and their host has to be one that the
endpoint can be joined to; nothing asks for its scheme. Settings that options give are in order and
have a host of HTTP besides. So what a load test is made with obeys every rule for options if its
host has one of the two schemes, and not otherwise. -/
theorem isAdmissible_iff_scheme (clock : Clock) (settings : Settings) (tasks : TaskSet)
    (token : BearerToken) :
    ((∃ test, make clock settings tasks token = .ok test) ↔
      tasks.isEmpty = false ∧ settings.IsInOrder clock ∧
        ∃ endpoint, Endpoint.ofHost settings.host = .ok endpoint) ∧
    (∀ o s, (Settings.ofOptions clock o).1 = .ok s ↔
      ∃ url, Url.parse o.host = .ok url ∧
        s = Settings.assemble o (LoadProfile.named o.profile).1
          (Settings.boundsOf o (LoadProfile.named o.profile).1) url ∧ s.IsAdmissible clock) ∧
    ∀ test, make clock settings tasks token = .ok test →
      (settings.IsAdmissible clock ↔
        settings.host.scheme = "http".toList ∨ settings.host.scheme = "https".toList) := by
  refine ⟨?_, fun o s => Settings.ofProfile_eq_ok_iff, fun test made => ?_⟩
  · simp only [make_eq_ok_iff]
    constructor
    · rintro ⟨test, hempty, inOrder, client, hclient, -⟩
      exact ⟨hempty, inOrder, (Client.exists_ofSettings_iff _).1 ⟨client, hclient⟩⟩
    · rintro ⟨hempty, inOrder, hendpoint⟩
      obtain ⟨client, hclient⟩ := (Client.exists_ofSettings_iff _).2 hendpoint
      exact ⟨_, hempty, inOrder, client, hclient, rfl⟩
  · obtain ⟨-, inOrder, -⟩ := make_eq_ok_iff.1 made
    exact ⟨fun admissible => admissible.scheme, fun scheme => ⟨inOrder, scheme⟩⟩

/-- The same machine, as a host that files are fetched from. -/
def ftpHost : Url := { localSettings.host with scheme := "ftp".toList }

/-- A load test is made for a host that no option can name. -/
theorem not_isAdmissible_of_ftpHost :
    Url.parse "ftp://[::1]:4010" = .ok ftpHost ∧
    (∃ test, make ⟨.zero⟩ { localSettings with host := ftpHost } .catalog ⟨"token", by decide⟩ =
      .ok test) ∧
    ¬ Settings.IsAdmissible { localSettings with host := ftpHost } ⟨.zero⟩ ∧
    Settings.parseHost "ftp://[::1]:4010" = .error (.hostScheme "ftp://[::1]:4010" "ftp") := by
  have hparse : Url.parse "ftp://[::1]:4010" = .ok ftpHost := eq_ok_of_toOption (by decide +kernel)
  have hok : (make ⟨.zero⟩ { localSettings with host := ftpHost } .catalog
      ⟨"token", by decide⟩).isOk = true := by decide +kernel
  obtain ⟨test, made⟩ := exists_eq_ok_of_isOk hok
  have hscheme := (isAdmissible_iff_scheme _ _ _ _).2.2 test made
  refine ⟨hparse, ⟨test, made⟩, ?_, ?_⟩
  · rw [hscheme]
    decide
  · rw [Settings.parseHost, hparse]
    rfl

end LoadTest

end QuerySwarm
