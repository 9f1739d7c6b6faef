import Provisioning.Cli.Invocation
import Provisioning.Proofs.Settings.Lookup
/-!
# Flags over file over defaults

* `Choice` : a setting that a flag and a key of the file decide together, and where it goes;
* `Choice.Holds` : the flag's value is taken if there is one, and else the file's;
* `Choice.Govern` : what a flag gives is not asked of the file, and no setting reaches the place of
  another; `Choice.govern_of` is all that this takes;
* `needed`, `connectionChoices`, `uploadChoices` : the settings that a connection cannot do without,
  and all those of connections and of batches;
* `resolve_eq_error_iff`, `resolve_eq_ok_iff` : the setting that is reported as missing, and the
  connection that is described; by `eq_adjust` it is the usual one, adjusted;
* `declaration_eq_iff` : the batch that is described;
* `names_choices`, `entries_choices` : the choices are those of the command line and of the file;
* `flags_prevail` : all of this together.
-/

namespace Provisioning.Cli
open Settings

/-! ## Choices -/

/-- A setting of a result of type `ρ` that flags of type `φ` and the file decide together. -/
structure Choice (φ ρ : Type) where
  name : String
  entry : Known
  {Value : Type}
  flag : φ → Option Value
  /-- What the setting of the file says. Where that has a default, it always says something. -/
  view : entry.Value → Option Value
  field : ρ → Option Value

namespace Choice

variable {φ ρ : Type} {k : Choice φ ρ} {f f' : φ} {s s' : Settings} {d d' : Ini.Document}

def file (k : Choice φ ρ) (s : Settings) : Option k.Value := k.view (k.entry.setting s)

def chosen (k : Choice φ ρ) (f : φ) (s : Settings) : Option k.Value := (k.flag f).or (k.file s)

def Holds (k : Choice φ ρ) (f : φ) (s : Settings) (r : ρ) : Prop := k.field r = k.chosen f s

def IsGiven (k : Choice φ ρ) (f : φ) (s : Settings) : Prop :=
  (k.flag f).isSome ∨ (k.file s).isSome

instance (k : Choice φ ρ) (f : φ) (s : Settings) : Decidable (k.IsGiven f s) :=
  inferInstanceAs (Decidable (_ ∨ _))

def missing (k : Choice φ ρ) : MissingSetting := ⟨k.name, k.entry.key⟩

def lack? (k : Choice φ ρ) (f : φ) (s : Settings) : Option MissingSetting :=
  if k.IsGiven f s then none else some k.missing

theorem isGiven_iff : k.IsGiven f s ↔ (k.chosen f s).isSome := by
  rw [IsGiven, chosen, Option.isSome_or, Bool.or_eq_true]

theorem lack?_eq_none_iff : k.lack? f s = none ↔ k.IsGiven f s := by
  unfold lack?
  split <;> simp [*]

theorem lack?_of_chosen {v : k.Value} (h : k.chosen f s = some v) : k.lack? f s = none := by
  rw [lack?_eq_none_iff, isGiven_iff, h]
  rfl

theorem lack?_of_not_chosen (h : k.chosen f s = none) : k.lack? f s = some k.missing := by
  have hnot : ¬ k.IsGiven f s := by simp [isGiven_iff, h]
  exact if_neg hnot

/-- Whether a setting is missing can be told from what was chosen. -/
theorem lack?_congr (h : k.chosen f s = k.chosen f' s') : k.lack? f s = k.lack? f' s' := by
  cases hv : k.chosen f s with
  | none => rw [lack?_of_not_chosen hv, lack?_of_not_chosen (h.symm.trans hv)]
  | some v => rw [lack?_of_chosen hv, lack?_of_chosen (h.symm.trans hv)]

theorem chosen_congr (h : k.flag f = none → k.file s = k.file s') :
    k.chosen f s = k.chosen f s' := by
  unfold chosen
  cases hv : k.flag f with
  | none => rw [h hv]
  | some v => rfl

theorem file_eq_of_look (hk : k.entry ∈ known) (hs : ofDocument d = .ok s)
    (hs' : ofDocument d' = .ok s') (h : k.entry.look d = k.entry.look d') :
    k.file s = k.file s' := by
  have hvalue : k.entry.value d = k.entry.value d' := by
    unfold Known.value
    rw [h]
  rw [eq_found_of_ofDocument hs, eq_found_of_ofDocument hs']
  unfold file
  rw [setting_found d _ hk, setting_found d' _ hk, hvalue]

/-- The outcome follows from flags and file setting by setting. -/
structure Govern (ks : List (Choice φ ρ)) (outcome : φ → Settings → Except MissingSetting ρ) :
    Prop where
  /-- Files may differ wherever a flag is given. -/
  overridden : ∀ f s s', (∀ k ∈ ks, k.flag f = none → k.file s = k.file s') →
    outcome f s = outcome f s'
  /-- And so may documents, as long as both can be loaded. -/
  loaded : ∀ f d d' s s', ofDocument d = .ok s → ofDocument d' = .ok s' →
    (∀ k ∈ ks, k.flag f = none → k.entry.look d = k.entry.look d') → outcome f s = outcome f s'
  /-- A setting changes only with its own flag or its own key. -/
  separate : ∀ f f' s s' r r', outcome f s = .ok r → outcome f' s' = .ok r' →
    ∀ k ∈ ks, k.flag f = k.flag f' → k.file s = k.file s' → k.field r = k.field r'

/-- Enough is that what was chosen decides the outcome, and that the outcome has it. -/
theorem govern_of {ks : List (Choice φ ρ)} {outcome : φ → Settings → Except MissingSetting ρ}
    (hentry : ∀ k ∈ ks, k.entry ∈ known)
    (hcongr : ∀ f s s', (∀ k ∈ ks, k.chosen f s = k.chosen f s') → outcome f s = outcome f s')
    (hholds : ∀ f s r, outcome f s = .ok r → ∀ k ∈ ks, k.Holds f s r) : Govern ks outcome := by
  have hoverridden : ∀ f s s', (∀ k ∈ ks, k.flag f = none → k.file s = k.file s') →
      outcome f s = outcome f s' := by
    intro f s s' h
    apply hcongr
    intro k hk
    exact chosen_congr (h k hk)
  refine ⟨hoverridden, ?_, ?_⟩
  · intro f d d' s s' hs hs' h
    apply hoverridden
    intro k hk hflag
    exact file_eq_of_look (hentry k hk) hs hs' (h k hk hflag)
  · intro f f' s s' r r' hr hr' k hk hflag hfile
    calc k.field r
      _ = (k.flag f).or (k.file s) := hholds f s r hr k hk
      _ = (k.flag f').or (k.file s') := by rw [hflag, hfile]
      _ = k.field r' := (hholds f' s' r' hr' k hk).symm

end Choice

/-! ## Connections -/

namespace Choice

def ofConnection {α : Type} (name key : String) (read : String → Option α)
    (flag : ConnectionFlags → Option α) (setting : ConnectionSettings → Option α)
    (field : Es2.Config → α) : Choice ConnectionFlags Es2.Config :=
  ⟨name, ⟨connectionSection, key, given? read, (setting ·.connection)⟩, flag, id,
    (some <| field ·)⟩

def host : Choice ConnectionFlags Es2.Config :=
  ofConnection "host" "host" some (·.host) (·.host) (·.host)

def port : Choice ConnectionFlags Es2.Config :=
  ofConnection "port" "port" (trimmed Settings.port?) (·.port) (·.port) (·.port)

def requesterId : Choice ConnectionFlags Es2.Config :=
  ofConnection "requester-id" "requester_id" some (·.requesterId) (·.requesterId) (·.requesterId)

def cert : Choice ConnectionFlags Es2.Config :=
  ofConnection "cert" "cert" some (·.cert) (·.cert) (·.cert)

def key : Choice ConnectionFlags Es2.Config :=
  ofConnection "key" "key" some (·.key) (·.key) (·.key)

/-- The flag has no value: it can only forbid what the file or the default allows. -/
def acceptance : Choice ConnectionFlags Es2.Config :=
  ⟨"verify-server-certs", Settings.acceptance,
    fun f => if f.verifyServerCerts then some false else none, fun a => some (a.getD true),
    (some ·.acceptInvalidServerCerts)⟩

def milliseconds (seconds : UInt64) : Nat := seconds.toNat * 1000

def timeout : Choice ConnectionFlags Es2.Config :=
  ⟨"timeout-secs", Settings.timeout, (·.timeoutSecs.map milliseconds), (·.map milliseconds),
    (·.timeoutMs)⟩

end Choice

/-- The settings that a connection cannot do without, in the order in which they are asked for. -/
def needed : List (Choice ConnectionFlags Es2.Config) :=
  [.host, .port, .requesterId, .cert, .key]

def connectionChoices : List (Choice ConnectionFlags Es2.Config) :=
  needed ++ [.acceptance, .timeout]

section Connection

variable {f f' : ConnectionFlags} {s s' : Settings} {c : Es2.Config} {m : MissingSetting}

theorem required_bind_eq_ok_iff {α β : Type} {flag key : String} {o : Option α}
    {g : α → Except MissingSetting β} {b : β} :
    (required flag key o >>= g) = .ok b ↔ ∃ a, o = some a ∧ g a = .ok b := by
  cases o with
  | none => exact iff_of_false (fun h => nomatch h) fun ⟨_, h, _⟩ => nomatch h
  | some a => exact ⟨fun h => ⟨a, rfl, h⟩, fun ⟨_, ha, h⟩ => Option.some.inj ha ▸ h⟩

/-- The first setting that is missing is the one that is asked for now, or one that comes later. -/
theorem required_bind_eq_error_iff (k : Choice ConnectionFlags Es2.Config)
    {ks : List (Choice ConnectionFlags Es2.Config)} {g : k.Value → Except MissingSetting Es2.Config}
    (hg : ∀ a, g a = .error m ↔ ks.findSome? (·.lack? f s) = some m) :
    (required k.name k.entry.key (k.chosen f s) >>= g) = .error m ↔
      (k :: ks).findSome? (·.lack? f s) = some m := by
  rw [List.findSome?_cons]
  cases hv : k.chosen f s with
  | none =>
    rw [Choice.lack?_of_not_chosen hv]
    exact ⟨fun h => congrArg some (Except.error.inj h), fun h => congrArg _ (Option.some.inj h)⟩
  | some a =>
    rw [Choice.lack?_of_chosen hv]
    exact hg a

theorem resolve_eq_error_iff :
    f.resolve s.connection = .error m ↔ needed.findSome? (·.lack? f s) = some m := by
  apply required_bind_eq_error_iff .host
  intro host
  apply required_bind_eq_error_iff .port
  intro port
  apply required_bind_eq_error_iff .requesterId
  intro requesterId
  apply required_bind_eq_error_iff .cert
  intro cert
  apply required_bind_eq_error_iff .key
  intro key
  exact iff_of_false (fun h => nomatch h) (fun h => nomatch h)

theorem exists_resolve_eq_ok_iff :
    (∃ c, f.resolve s.connection = .ok c) ↔ ∀ k ∈ needed, k.IsGiven f s := by
  have hnone : (∀ k ∈ needed, k.IsGiven f s) ↔ needed.findSome? (·.lack? f s) = none := by
    simp only [List.findSome?_eq_none_iff, Choice.lack?_eq_none_iff]
  rw [hnone]
  cases h : f.resolve s.connection with
  | error m =>
    rw [resolve_eq_error_iff.mp h]
    exact iff_of_false (fun ⟨_, h⟩ => nomatch h) (Option.some_ne_none m)
  | ok c =>
    refine iff_of_true ⟨c, rfl⟩ (Option.eq_none_iff_forall_ne_some.mpr ?_)
    intro m hm
    cases h.symm.trans (resolve_eq_error_iff.mpr hm)

theorem chosen_acceptance : Choice.acceptance.chosen f s =
    some (!f.verifyServerCerts && s.connection.acceptInvalidServerCerts.getD true) := by
  show (if f.verifyServerCerts then some false else none).or _ = _
  cases f.verifyServerCerts <;> rfl

theorem chosen_timeout : Choice.timeout.chosen f s =
    (f.timeoutSecs.or s.connection.timeoutSecs).map Choice.milliseconds :=
  Option.map_or.symm

theorem resolve_eq_ok_iff : f.resolve s.connection = .ok c ↔
    (∀ k ∈ connectionChoices, k.Holds f s c) ∧ c.logPayloads = f.logPayloads := by
  simp only [connectionChoices, needed, List.cons_append, List.nil_append, List.forall_mem_cons,
    List.not_mem_nil, false_implies, implies_true, and_true]
  unfold ConnectionFlags.resolve
  simp only [required_bind_eq_ok_iff]
  constructor
  · rintro ⟨host, hhost, port, hport, requesterId, hrequester, cert, hcert, key, hkey, h⟩
    cases h
    exact ⟨⟨hhost.symm, hport.symm, hrequester.symm, hcert.symm, hkey.symm,
      chosen_acceptance.symm, chosen_timeout.symm⟩, rfl⟩
  · rintro ⟨⟨hhost, hport, hrequester, hcert, hkey, haccept, htimeout⟩, hlog⟩
    refine ⟨_, hhost.symm, _, hport.symm, _, hrequester.symm, _, hcert.symm, _, hkey.symm, ?_⟩
    have haccept := Option.some.inj (haccept.trans chosen_acceptance)
    have htimeout : c.timeoutMs = (f.timeoutSecs.or s.connection.timeoutSecs).map fun n =>
        n.toNat * 1000 := htimeout.trans chosen_timeout
    rw [← haccept, ← htimeout, ← hlog]
    rfl

theorem accepts_eq (h : f.resolve s.connection = .ok c) : c.acceptInvalidServerCerts =
    (!f.verifyServerCerts && s.connection.acceptInvalidServerCerts.getD true) := by
  have hholds : Choice.acceptance.Holds f s c :=
    (resolve_eq_ok_iff.mp h).1 _ (List.mem_append_right needed List.mem_cons_self)
  exact Option.some.inj (hholds.trans chosen_acceptance)

theorem timeoutMs_eq (h : f.resolve s.connection = .ok c) : c.timeoutMs =
    (f.timeoutSecs.or s.connection.timeoutSecs).map Choice.milliseconds := by
  have hholds : Choice.timeout.Holds f s c :=
    (resolve_eq_ok_iff.mp h).1 _
      (List.mem_append_right needed (List.mem_cons_of_mem _ List.mem_cons_self))
  exact hholds.trans chosen_timeout

theorem accepts_iff (h : f.resolve s.connection = .ok c) : c.acceptInvalidServerCerts = true ↔
    f.verifyServerCerts = false ∧ s.connection.acceptInvalidServerCerts ≠ some false := by
  rw [accepts_eq h, Bool.and_eq_true, Bool.not_eq_true']
  cases s.connection.acceptInvalidServerCerts with
  | none => simp
  | some b => cases b <;> simp

/-- What flags and file say of a connection beyond its identity. -/
def ConnectionFlags.adjust (f : ConnectionFlags) (s : ConnectionSettings) (c : Es2.Config) :
    Es2.Config :=
  let adjusted := (c.withAcceptInvalidServerCerts
    (!f.verifyServerCerts && s.acceptInvalidServerCerts.getD true)).withLogPayloads f.logPayloads
  match f.timeoutSecs.or s.timeoutSecs with
  | some n => adjusted.withTimeoutMs (Choice.milliseconds n)
  | none => adjusted

theorem eq_adjust (h : f.resolve s.connection = .ok c) :
    c = f.adjust s.connection (.ofIdentity c.host c.port c.requesterId c.cert c.key) := by
  have htimeout := timeoutMs_eq h
  unfold ConnectionFlags.adjust
  rw [← accepts_eq h, ← (resolve_eq_ok_iff.mp h).2]
  cases hsecs : f.timeoutSecs.or s.connection.timeoutSecs with
  | none =>
    have hnone : c.timeoutMs = none := by rw [htimeout, hsecs]; rfl
    show c = { c with timeoutMs := none }
    rw [← hnone]
  | some n =>
    have hsome : c.timeoutMs = some (Choice.milliseconds n) := by rw [htimeout, hsecs]; rfl
    show c = { c with timeoutMs := some (Choice.milliseconds n) }
    rw [← hsome]

/-- A connection depends on what was chosen, and on the flag that only flags have. -/
theorem resolve_congr (h : ∀ k ∈ connectionChoices, k.chosen f s = k.chosen f' s')
    (hlog : f.logPayloads = f'.logPayloads) :
    f.resolve s.connection = f'.resolve s'.connection := by
  cases hr : f.resolve s.connection with
  | error m =>
    have hlack : needed.filterMap (·.lack? f s) = needed.filterMap (·.lack? f' s') :=
      List.filterMap_congr fun k hk => Choice.lack?_congr (h k (List.mem_append_left _ hk))
    have hm := resolve_eq_error_iff.mp hr
    rw [← List.head?_filterMap, hlack, List.head?_filterMap] at hm
    exact (resolve_eq_error_iff.mpr hm).symm
  | ok c =>
    obtain ⟨hc, hclog⟩ := resolve_eq_ok_iff.mp hr
    have hc' : f'.resolve s'.connection = .ok c :=
      resolve_eq_ok_iff.mpr ⟨fun k hk => (hc k hk).trans (h k hk), hclog.trans hlog⟩
    exact hc'.symm

end Connection

/-! ## Batches -/

def Choice.ofUpload {α : Type} (name key : String) (read : String → Option α)
    (flag : BatchFlags → Option α) (setting : UploadSettings → α)
    (field : Batch.Declaration → α) : Choice BatchFlags Batch.Declaration :=
  ⟨name, ⟨uploadSection, key, read, (setting ·.upload)⟩, flag, some, (some <| field ·)⟩

def uploadChoices : List (Choice BatchFlags Batch.Declaration) := [
  .ofUpload "upload-hostname" "hostname" some (·.uploadHostname) (·.hostname) (·.uploadHostname),
  .ofUpload "upload-port" "port" (trimmed Settings.port?) (·.uploadPort) (·.port) (·.uploadPort),
  .ofUpload "hss-vendor" "hss_vendor" some (·.hssVendor) (·.hssVendor) (·.hssVendor),
  .ofUpload "profile-vendor" "profile_vendor" some (·.profileVendor) (·.profileVendor)
    (·.profileVendor),
  .ofUpload "initial-hss-state" "initial_hss_state" some (·.initialHssState) (·.initialHssState)
    (·.initialHssState)]

/-- What a batch has from its flags as they are. -/
structure BatchFlags.Copied (f : BatchFlags) (d : Batch.Declaration) : Prop where
  iccid : d.iccid = f.iccid
  imsi : d.imsi = f.imsi
  msisdn : d.msisdn = f.msisdn
  profileType : d.profileType = f.profileType
  quantity : d.quantity = f.batchQuantity

section Upload

variable {f : BatchFlags} {s s' : Settings} {d : Batch.Declaration}

theorem holds_ofUpload_iff {α : Type} {name key : String} {read : String → Option α}
    {flag : BatchFlags → Option α} {setting : UploadSettings → α} {field : Batch.Declaration → α} :
    (Choice.ofUpload name key read flag setting field).Holds f s d ↔
      field d = (flag f).getD (setting s.upload) := by
  show some (field d) = (flag f).or (some (setting s.upload)) ↔ _
  rw [Option.or_some, Option.some.injEq]

theorem declaration_eq_iff :
    f.declaration s.upload = d ↔ (∀ k ∈ uploadChoices, k.Holds f s d) ∧ f.Copied d := by
  simp only [uploadChoices, List.forall_mem_cons, List.not_mem_nil, false_implies, implies_true,
    and_true, holds_ofUpload_iff]
  constructor
  · rintro rfl
    exact ⟨⟨rfl, rfl, rfl, rfl, rfl⟩, ⟨rfl, rfl, rfl, rfl, rfl⟩⟩
  · rintro ⟨⟨hhostname, hport, hhss, hprofile, hstate⟩, hiccid, himsi, hmsisdn, htype, hquantity⟩
    unfold BatchFlags.declaration
    rw [← hhostname, ← hport, ← hhss, ← hprofile, ← hstate, ← hiccid, ← himsi, ← hmsisdn, ← htype,
      ← hquantity]

theorem declaration_congr (h : ∀ k ∈ uploadChoices, k.chosen f s = k.chosen f s') :
    f.declaration s.upload = f.declaration s'.upload := by
  obtain ⟨hholds, hcopied⟩ := declaration_eq_iff.mp (Eq.refl (f.declaration s.upload))
  exact (declaration_eq_iff.mpr ⟨fun k hk => (hholds k hk).trans (h k hk), hcopied⟩).symm

end Upload

/-! ## Precedence -/

theorem names_choices :
    connectionLevel.flags.map (·.name) = connectionChoices.map (·.name) ++ ["log-payloads"] ∧
    BatchDraft.level.flags.map (·.name) =
      ["first-iccid", "last-iccid", "first-imsi", "last-imsi", "first-msisdn", "last-msisdn",
        "profile-type", "batch-quantity"] ++ uploadChoices.map (·.name) :=
  ⟨rfl, rfl⟩

theorem entries_choices :
    connectionChoices.map (·.entry) ++ uploadChoices.map (·.entry) = known := rfl

theorem govern_resolve :
    Choice.Govern connectionChoices fun f s => f.resolve s.connection := by
  apply Choice.govern_of
  · intro k hk
    rw [← entries_choices]
    exact List.mem_append_left _ (List.mem_map_of_mem hk)
  · intro f s s' h
    exact resolve_congr h rfl
  · intro f s c h
    exact (resolve_eq_ok_iff.mp h).1

theorem govern_declaration :
    Choice.Govern uploadChoices fun f s => .ok (f.declaration s.upload) := by
  apply Choice.govern_of
  · intro k hk
    rw [← entries_choices]
    exact List.mem_append_right _ (List.mem_map_of_mem hk)
  · intro f s s' h
    exact congrArg Except.ok (declaration_congr h)
  · intro f s d h
    exact (declaration_eq_iff.mp (Except.ok.inj h)).1

theorem flag_mem_connectionLevel {k : Choice ConnectionFlags Es2.Config} (hk : k ∈ needed) :
    k.missing.flag ∈ connectionLevel.flags.map (·.name) := by
  have hmem : k ∈ connectionChoices := List.mem_append_left _ hk
  rw [names_choices.1]
  exact List.mem_append_left _ (List.mem_map_of_mem hmem)

/-- A connection needs the settings that are `needed`. The first that neither its flag nor the file
gives is reported, by a text of its own, with a flag that the command line has. Each setting of a
connection or a batch is that of its flag, or else that of the file, and comes from nowhere else. -/
theorem flags_prevail :
    (∀ (f : ConnectionFlags) (s : Settings),
      (∃ c, f.resolve s.connection = .ok c) ↔ ∀ k ∈ needed, k.IsGiven f s) ∧
    (∀ (f : ConnectionFlags) (s : Settings) m,
      f.resolve s.connection = .error m ↔ needed.findSome? (·.lack? f s) = some m) ∧
    (needed.map (·.missing.message)).Nodup ∧
    (∀ k ∈ needed, k.missing.flag ∈ connectionLevel.flags.map (·.name)) ∧
    (∀ (f : ConnectionFlags) (s : Settings) c, f.resolve s.connection = .ok c ↔
      (∀ k ∈ connectionChoices, k.Holds f s c) ∧ c.logPayloads = f.logPayloads) ∧
    (∀ (f : ConnectionFlags) (s : Settings) c, f.resolve s.connection = .ok c →
      (c.acceptInvalidServerCerts = true ↔
        f.verifyServerCerts = false ∧ s.connection.acceptInvalidServerCerts ≠ some false)) ∧
    (∀ (f : BatchFlags) (s : Settings) d, f.declaration s.upload = d ↔
      (∀ k ∈ uploadChoices, k.Holds f s d) ∧ f.Copied d) ∧
    Choice.Govern connectionChoices (fun f s => f.resolve s.connection) ∧
    Choice.Govern uploadChoices fun f s => .ok (f.declaration s.upload) := by
  have htexts : (needed.map (·.missing.message)).Nodup := by decide +kernel
  exact ⟨fun f s => exists_resolve_eq_ok_iff, fun f s m => resolve_eq_error_iff, htexts,
    fun k => flag_mem_connectionLevel, fun f s c => resolve_eq_ok_iff, fun f s c => accepts_iff,
    fun f s d => declaration_eq_iff, govern_resolve, govern_declaration⟩

/-- Gives what the two documents below disagree on. -/
def givingFlags : ConnectionFlags :=
  { host := some "other.example", timeoutSecs := some 5, verifyServerCerts := true }

def hostlessFlags : ConnectionFlags := { givingFlags with host := none }

def givingBatch : BatchFlags where
  iccid := ⟨"890100000000000000", "890100000000000009"⟩
  imsi := ⟨"242017100000228", "242017100000237"⟩
  msisdn := ⟨"4790900700", "4790900709"⟩
  profileType := "OYA_M1_BF76"
  batchQuantity := "10"
  uploadHostname := some "inventory.example"
  uploadPort := some 9443

def fullDocument : Ini.Document := ⟨[
  ⟨some "es2plus", [("host", "smdp.example"), ("port", "8443"), ("requester_id", "operator"),
    ("cert", "c.pem"), ("key", "k.pem"), ("timeout_secs", "30")]⟩]⟩

def hostlessDocument : Ini.Document := ⟨[
  ⟨some "upload", [("hostname", "inventory"), ("port", "9090")]⟩,
  ⟨some "es2plus", [("accept_invalid_server_certs", "true"), ("timeout_secs", "60"),
    ("key", "k.pem"), ("cert", "c.pem"), ("requester_id", "operator"), ("port", "8443")]⟩]⟩

def connectionTo (host : String) : Es2.Config where
  host
  port := 8443
  requesterId := "operator"
  cert := "c.pem"
  key := "k.pem"
  acceptInvalidServerCerts := false
  timeoutMs := some 5000
  logPayloads := false

/-- The documents make no difference to these flags. Without the flag for the host the first
document's host is taken and all else stays, and the second document does not do. -/
theorem flags_prevail_sample :
    givingFlags.resolve (found fullDocument).connection = .ok (connectionTo "other.example") ∧
    givingFlags.resolve (found hostlessDocument).connection = .ok (connectionTo "other.example") ∧
    givingBatch.declaration (found fullDocument).upload =
      givingBatch.declaration (found hostlessDocument).upload ∧
    (∀ k ∈ connectionChoices, k.name ≠ "host" →
      k.field (connectionTo "other.example") = k.field (connectionTo "smdp.example")) ∧
    (connectionTo "smdp.example").acceptInvalidServerCerts ≠ true ∧
    hostlessFlags.resolve (found hostlessDocument).connection = .error ⟨"host", "host"⟩ := by
  obtain ⟨-, herror, -, -, -, haccept, -, hconnection, hbatch⟩ := flags_prevail
  have hfull : ofDocument fullDocument = .ok (found fullDocument) := by decide +kernel
  have hhostless : ofDocument hostlessDocument = .ok (found hostlessDocument) := by decide +kernel
  have hgiving : givingFlags.resolve (found fullDocument).connection =
      .ok (connectionTo "other.example") := by decide +kernel
  have hfallen : hostlessFlags.resolve (found fullDocument).connection =
      .ok (connectionTo "smdp.example") := by decide +kernel
  have hsame : givingFlags.resolve (found fullDocument).connection =
      givingFlags.resolve (found hostlessDocument).connection :=
    hconnection.loaded _ _ _ _ _ hfull hhostless (by decide +kernel)
  have hflags : ∀ k ∈ connectionChoices, k.name ≠ "host" →
      k.flag givingFlags = k.flag hostlessFlags := by
    simp only [connectionChoices, needed, List.cons_append, List.nil_append, List.forall_mem_cons]
    exact ⟨fun h => absurd rfl h, fun _ => rfl, fun _ => rfl, fun _ => rfl, fun _ => rfl,
      fun _ => rfl, fun _ => rfl, fun k hk => nomatch hk⟩
  refine ⟨hgiving, hsame.symm.trans hgiving, ?_, ?_, ?_, ?_⟩
  · exact Except.ok.inj (hbatch.loaded givingBatch _ _ _ _ hfull hhostless (by decide +kernel))
  · intro k hk hname
    exact hconnection.separate _ _ _ _ _ _ hgiving hfallen k hk (hflags k hk hname) rfl
  · intro h
    have hoff : hostlessFlags.verifyServerCerts = false := ((haccept _ _ _ hfallen).mp h).1
    cases hoff
  · exact (herror _ _ _).mpr (by decide +kernel)

end Provisioning.Cli
