import SchemaPages.Proofs.Generation.Dialogue
import SchemaPages.Proofs.Number.Multiple
import SchemaPages.Proofs.Settings.Loaded

/-!
# The pauses of a run

A pause is a multiple of the configured one, which is checked when the configuration is loaded: it
is not below zero (`not_lt_zero_of_numberSetting`). This does not make it a time that one can wait,
as neither infinity nor what is no number at all is below zero, and a multiple of a finite number
may be out of range. What the server replies decides how many of the pauses are made (`pauses_eq`),
so all of them can be waited exactly if the last one that may be made is finite
(`pauses_are_waits_iff`).
-/

namespace SchemaPages

open Host (Attempt Leaves Reply State)

/-! ### The configured pause -/

namespace Settings

variable {label name : String} {default seconds : Float} {content : Section} {n : Int}

/-- An integer that is not negative becomes the nearest float. -/
theorem eq_of_floatOfInt (hn : 0 ≤ n) (h : Number.floatOfInt n = some seconds) :
    n.natAbs < Number.floatBound ∧ seconds = Float.ofNat n.natAbs := by
  rw [Number.floatOfInt] at h
  split at h
  · cases h
  next hrange =>
    simp only [if_neg (not_lt.mpr hn)] at h
    exact ⟨not_le.mp hrange, (Option.some.inj h).symm⟩

theorem not_ofNat_lt_zero {k : ℕ} (h : k < Number.floatBound) : ¬ Float.ofNat k < 0 := by
  rcases Nat.eq_zero_or_pos k with rfl | hk
  · decide +kernel
  · have hnear := Number.isNearest_ofNat hk
    have hfinite := hnear.isFinite_iff.mpr (Nat.cast_lt.mpr h)
    exact (Number.not_lt_zero_iff _).mpr (.inr (hnear.zero_le hfinite))

/-- A number that is accepted is not below zero. -/
theorem not_lt_zero_of_numberSetting (hdefault : ¬ default < 0)
    (h : numberSetting label name default content = .ok seconds) : ¬ seconds < 0 := by
  rw [numberSetting] at h
  split at h
  · cases h
    exact hdefault
  · next n =>
    split at h
    · cases h
    next hn =>
      split at h
      · next hfloat =>
        cases h
        obtain ⟨hrange, rfl⟩ := eq_of_floatOfInt (Int.not_lt.mp hn) hfloat
        exact not_ofNat_lt_zero hrange
      · cases h
  · split at h
    · cases h
    next hsign =>
      cases h
      exact hsign
  · cases h

end Settings

namespace Generation

open Files (Path)
open Settings (Configuration)

variable {request : Request} {plan : Plan} {configPath : Option String} {pathText : String}
  {configuration : Configuration} {before after : State}

/-- A time that one can wait: a finite number of seconds that is not negative. -/
def IsWait (seconds : Float) : Prop :=
  seconds.isFinite = true ∧ 0 ≤ seconds

instance (seconds : Float) : Decidable (IsWait seconds) :=
  inferInstanceAs (Decidable (_ ∧ _))

/-- The pauses of a run that is given these replies. -/
def Request.pauses (request : Request) (before : State) (replies : List Reply) : List Float :=
  ((run request).exec { before with replies, pauses := [] }).2.pauses

/-! ### The pauses of a run -/

/-- The configuration does not depend on what a server replies. -/
theorem exec_loadConfiguration_replies
    (h : (loadConfiguration configPath).exec before = (.ok configuration, after))
    (replies : List Reply) :
    (loadConfiguration configPath).exec { before with replies, pauses := [] } =
      (.ok configuration, { before with replies, pauses := [] }) := by
  have halike : ConfiguredAlike configPath before { before with replies, pauses := [] } :=
    ⟨rfl, .refl _, fun _ _ => rfl⟩
  have hresult := (((asks_loadConfiguration configPath).mono fun _ =>
    AboutConfiguration.respects).alike halike).result
  have hleaves : (loadConfiguration configPath).Asks (Leaves id) :=
    (asks_loadConfiguration configPath).mono fun _ => AboutConfiguration.leaves
  rw [h] at hresult
  exact Prod.ext hresult.symm (hleaves.unchanged _)

/-- The retries and the pause of a plan are those of its configuration. -/
theorem source_of_exec_readPlan
    (hload : (loadConfiguration request.configPath).exec before = (.ok configuration, before))
    (hplan : (readPlan request).exec before = (.ok plan, before)) :
    plan.source.maxRetries = configuration.source.maxRetries ∧
      plan.source.retryBackoffSeconds = configuration.source.retryBackoffSeconds := by
  obtain ⟨loaded, hloaded, hmerge⟩ := exists_of_exec_readPlan hplan
  cases hload.symm.trans hloaded
  have hcombines := combines_of_mergeSource hmerge
  exact ⟨hcombines.maxRetries, hcombines.retryBackoffSeconds⟩

/-- A run makes the first pauses, as many as its replies tell, and at most one for each retry. -/
theorem pauses_eq
    (hload : (loadConfiguration request.configPath).exec before = (.ok configuration, after))
    (replies : List Reply) :
    ∃ count ≤ configuration.source.maxRetries.toNat,
      request.pauses before replies = (List.range' 1 count).map fun number =>
        configuration.source.retryBackoffSeconds * Float.ofNat number := by
  have hload' := exec_loadConfiguration_replies hload replies
  rw [Request.pauses, Attempt.pauses_exec, List.nil_append]
  by_cases hserver : ∃ plan url,
      (readPlan request).exec { before with replies, pauses := [] } =
        (.ok plan, { before with replies, pauses := [] }) ∧ plan.source.source = .server url
  · obtain ⟨plan, url, hplan, hsource⟩ := hserver
    obtain ⟨count, hle, -, -, hdialogue⟩ := exchanges_run_of_server hplan hsource
    obtain ⟨hretries, hseconds⟩ := source_of_exec_readPlan hload' hplan
    refine ⟨count, hretries ▸ hle, ?_⟩
    rw [hdialogue, Introspection.pauses_dialogue, ← hseconds]
    rfl
  · have hnone := exchanges_run_of_no_server fun plan hplan url hsource =>
      hserver ⟨plan, url, hplan, hsource⟩
    rw [hnone]
    exact ⟨0, Nat.zero_le _, rfl⟩

/-- A server that can never be reached is asked again as often as may be. -/
theorem exists_pauses_eq
    (hload : (loadConfiguration (some pathText)).exec before = (.ok configuration, after)) :
    ∃ request : Request, request.configPath = some pathText ∧
      request.pauses before [] =
        (List.range' 1 configuration.source.maxRetries.toNat).map fun number =>
          configuration.source.retryBackoffSeconds * Float.ofNat number := by
  -- The server and the empty front matter of the request go before those of the configuration.
  let request : Request :=
    { configPath := some pathText, url := some "http://api", frontMatter := some "" }
  have hload' := exec_loadConfiguration_replies hload []
  have hmerge : request.mergeSource configuration.source = .ok { configuration.source with
      url := some "http://api", jsonPath := none, schemaPath := none
      headers := configuration.source.headers ++ [] } := rfl
  have hplan : (readPlan request).exec { before with replies := [], pauses := [] } =
      ((settle request configuration).mapError .reported,
        { before with replies := [], pauses := [] }) := exec_readPlan hload'
  rw [settle_eq, hmerge] at hplan
  obtain ⟨count, -, -, hlast, hdialogue⟩ := exchanges_run_of_server hplan rfl
  -- No reply is left, so every one that is asked for is lost.
  have hall : count = configuration.source.maxRetries.toNat :=
    hlast.resolve_right Bool.true_eq_false.mp
  refine ⟨request, rfl, ?_⟩
  rw [Request.pauses, Attempt.pauses_exec, hdialogue, Introspection.pauses_dialogue, hall]
  rfl

/-- If the last pause is finite, it and all before it can be waited. -/
theorem isWait_of_le {seconds : Float} {k n : ℕ} (hsign : ¬ seconds < 0) (hk : 0 < k) (hle : k ≤ n)
    (h : (seconds * Float.ofNat n).isFinite = true) : IsWait (seconds * Float.ofNat k) := by
  have hfinite := Number.isFinite_mul_ofNat_of_le hk hle h
  exact ⟨hfinite, Number.zero_le_mul_ofNat hsign hk hfinite⟩

/-- **The pauses of a run.** Let a configuration be accepted. Then every run with it makes the first
multiples of its pause, at most one for each retry. The pause is not below zero; but all pauses of
all these runs, whatever the servers reply, are times that one can wait exactly if there are no
retries or the multiple for the last one is finite. If the number of retries is below `2 ^ 53`, this
says that the pause is finite itself, and that the exact product does not exceed the greatest float
by half of the distance to the next power of two. -/
theorem pauses_are_waits_iff
    (hload : (Configuration.load pathText).exec before = (.ok configuration, after)) :
    let seconds := configuration.source.retryBackoffSeconds
    let retries := configuration.source.maxRetries.toNat
    (∀ (request : Request) replies, request.configPath = some pathText →
      ∃ count ≤ retries, request.pauses before replies =
        (List.range' 1 count).map fun number => seconds * Float.ofNat number) ∧
    ((∀ (request : Request) replies, request.configPath = some pathText →
        ∀ pause ∈ request.pauses before replies, IsWait pause) ↔
      retries = 0 ∨ (seconds * Float.ofNat retries).isFinite = true) ∧
    ¬ seconds < 0 ∧
    (0 < retries → retries < 2 ^ 53 → ((seconds * Float.ofNat retries).isFinite = true ↔
      seconds.isFinite = true ∧ Number.magnitude seconds * retries < Number.floatBound)) := by
  have hconfigured : (loadConfiguration (some pathText)).exec before = (.ok configuration, after) :=
    Attempt.exec_adapt_eq_ok_iff.mpr hload
  have hsign : ¬ configuration.source.retryBackoffSeconds < 0 := by
    obtain ⟨text, value, -, -, -, hsetting⟩ := Settings.exists_of_exec_load hload
    exact Settings.not_lt_zero_of_numberSetting (by decide +kernel) hsetting
  have hpauses : ∀ (request : Request) replies, request.configPath = some pathText →
      ∃ count ≤ configuration.source.maxRetries.toNat, request.pauses before replies =
        (List.range' 1 count).map fun number =>
          configuration.source.retryBackoffSeconds * Float.ofNat number :=
    fun request replies hpath => pauses_eq (hpath ▸ hconfigured) replies
  refine ⟨hpauses, ⟨fun hwaits => ?_, fun hlast request replies hpath pause hpause => ?_⟩, hsign,
    fun hretries hsmall => Number.isFinite_mul_ofNat_iff hretries hsmall⟩
  · rcases Nat.eq_zero_or_pos configuration.source.maxRetries.toNat with hnone | hretries
    · exact .inl hnone
    · obtain ⟨request, hpath, hall⟩ := exists_pauses_eq hconfigured
      have hmem : configuration.source.maxRetries.toNat ∈
          List.range' 1 configuration.source.maxRetries.toNat := by
        rw [List.mem_range'_1]
        omega
      exact .inr (hwaits request [] hpath _ (hall ▸ List.mem_map_of_mem hmem)).1
  · obtain ⟨count, hle, hmade⟩ := hpauses request replies hpath
    rw [hmade, List.mem_map] at hpause
    obtain ⟨number, hnumber, rfl⟩ := hpause
    rw [List.mem_range'_1] at hnumber
    have hlast := hlast.resolve_left (by omega)
    exact isWait_of_le hsign (by omega) (by omega) hlast

/-- A host whose configuration names a server, three retries, and a pause. -/
def pausingHost (pause : String) : State :=
  { files := ⟨[(["pets.yml"], .file (Text.Utf8.encode
      ("source:\n  url: http://api\n  max_retries: 3\n  retry_backoff_seconds: " ++ pause ++
        "\n")))]⟩
    working := [], input := [], replies := [], sent := [], pauses := [], notes := [] }

/-- Two seconds make pauses that can be waited. -/
theorem pauses_are_waits_two :
    ∃ configuration after,
      (Configuration.load "pets.yml").exec (pausingHost "2") = (.ok configuration, after) ∧
        ∀ (request : Request) replies, request.configPath = some "pets.yml" →
          ∀ pause ∈ request.pauses (pausingHost "2") replies, IsWait pause := by
  have hfinite : ((Configuration.load "pets.yml").exec (pausingHost "2")).1.toOption.map
      (fun configuration => (configuration.source.retryBackoffSeconds *
        Float.ofNat configuration.source.maxRetries.toNat).isFinite) = some true := by
    decide +kernel
  obtain ⟨configuration, after, hload, hlast⟩ := Attempt.exists_of_map_toOption hfinite
  exact ⟨configuration, after, hload, (pauses_are_waits_iff hload).2.1.mpr (.inr hlast)⟩

/-- What is no number is accepted as the pause of a configuration, and then the pauses are no
numbers either. -/
theorem pauses_are_no_numbers :
    ((Configuration.load "pets.yml").exec (pausingHost ".nan")).1.isOk = true ∧
      ∃ pause ∈ ({ configPath := some "pets.yml" } : Request).pauses (pausingHost ".nan")
        [.lost "reset"], pause.isNaN = true ∧ ¬ IsWait pause := by
  decide +kernel

end Generation

end SchemaPages
