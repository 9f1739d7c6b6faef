import Provisioning.Proofs.Batch.Acceptance
import Provisioning.Proofs.Url.Parse
/-!
# Where a batch is imported

The upload address is put together from texts as the operator wrote them, and then only asked to be
an address. The hostname alone decides on the host, on who asks and, with a delimiter in it, on the
port. Delimiters in any of the three texts may put another query in the place of the initial state.

* `Declaration.hostname` : the hostname as it is read in an address;
* `Declaration.texts` : the texts that go into the address as they are;
* `Declaration.Addresses` : what the address of a declaration names;
* `Descriptor.url_addresses` : this holds of every accepted declaration;
* `Declaration.not_addressed` : it does not name the declared state for every one.
-/

namespace Provisioning.Batch
open Url Decimal

namespace Declaration

/-- The hostname as it is read in an address: without tabs and line ends, and without slashes of
either kind in front. -/
def hostname (d : Declaration) : List Char := authorityOn d.uploadHostname.toList

/-- The texts that go into the address as they are written. -/
def texts (d : Declaration) : List String := [d.uploadHostname, d.hssVendor, d.profileVendor]

def query (d : Declaration) : List Char := ("initialHssState=" ++ d.initialHssState).toList

/-- What the address `u` of a declaration names, if the hostname alone names `v`. -/
structure Addresses (d : Declaration) (u v : Url) : Prop where
  scheme : u.scheme = "http".toList
  host : u.host = v.host
  hosted : u.host ≠ none
  username : u.username = v.username
  password : u.password = v.password
  anonymous : '@' ∉ d.uploadHostname.toList → u.username = [] ∧ u.password = []
  /-- The declared port, unless the hostname holds the end of an authority. -/
  port : u.effectivePort? =
    if d.hostname.any (endsAuthority .web) then v.effectivePort? else some d.uploadPort.toNat
  fragment : u.fragment = none ↔ ∀ s ∈ d.texts, '#' ∉ s.toList
  /-- The declared state, unless a text holds a question mark. -/
  query : (∀ s ∈ d.texts, '#' ∉ s.toList) → (u.query = some d.query ↔ ∀ s ∈ d.texts, '?' ∉ s.toList)

/-! ## The text of the address -/

def portText (d : Declaration) : List Char := render d.uploadPort.toNat

def pathText (d : Declaration) : List Char :=
  "/ostelco/sim-inventory/".toList ++ (d.hssVendor.toList.filter (!isSkipped ·) ++
    ("/import-batch/profilevendor/".toList ++ d.profileVendor.toList.filter (!isSkipped ·)))

theorem allDigits_portText (d : Declaration) : AllDigits d.portText := allDigits_render _

variable {d : Declaration}

theorem query_plain (h : IsHssState d.initialHssState) :
    d.query.filter (!isSkipped ·) = d.query ∧ d.query.getLast? = some 'D' ∧ '#' ∉ d.query ∧
      Percent.encode Percent.inSpecialQuery d.query = d.query := by
  unfold query
  rcases h with h | h
  · rw [h]
    decide
  · rw [h]
    decide

theorem isSkipped_of_isDigit {c : Char} (h : c.isDigit = true) : isSkipped c = false := by
  obtain ⟨hlow, -⟩ := digit_bounds h
  rw [← Bool.not_eq_true]
  intro hskipped
  have hchar : c = '\t' ∨ c = '\n' ∨ c = '\r' := by
    simp [isSkipped] at hskipped
    tauto
  rcases hchar with rfl | rfl | rfl <;> exact absurd hlow (by decide)

theorem filter_behind (h : IsHssState d.initialHssState) :
    (':' :: (d.portText ++ ("/ostelco/sim-inventory/".toList ++ (d.hssVendor.toList ++
      ("/import-batch/profilevendor/".toList ++
        (d.profileVendor.toList ++ '?' :: d.query)))))).filter (!isSkipped ·) =
      ':' :: (d.portText ++ (d.pathText ++ '?' :: d.query)) := by
  have hport : d.portText.filter (!isSkipped ·) = d.portText := by
    rw [List.filter_eq_self]
    intro c hc
    rw [isSkipped_of_isDigit (d.allDigits_portText c hc)]
    rfl
  have hfirst : "/ostelco/sim-inventory/".toList.filter (!isSkipped ·) =
      "/ostelco/sim-inventory/".toList := by decide
  have hsecond : "/import-batch/profilevendor/".toList.filter (!isSkipped ·) =
      "/import-batch/profilevendor/".toList := by decide
  unfold pathText
  rw [List.filter_cons_of_pos (by decide), List.filter_append, List.filter_append,
    List.filter_append, List.filter_append, List.filter_append,
    List.filter_cons_of_pos (by decide), hport, hfirst, hsecond, (query_plain h).1]
  simp only [List.append_assoc]

theorem parse_uploadUrl (h : IsHssState d.initialHssState) :
    Url.parse d.uploadUrl = parseAuthority "http".toList .web
      (d.hostname ++ ':' :: (d.portText ++ (d.pathText ++ '?' :: d.query))) := by
  have hquery : "initialHssState=".toList ++ d.initialHssState.toList = d.query :=
    String.toList_append.symm
  obtain ⟨rest, hurl, hrest⟩ : ∃ rest : String, d.uploadUrl = "http://" ++ rest ∧
      rest.toList = d.uploadHostname.toList ++ ':' :: (d.portText ++
        ("/ostelco/sim-inventory/".toList ++ (d.hssVendor.toList ++
          ("/import-batch/profilevendor/".toList ++
            (d.profileVendor.toList ++ '?' :: d.query))))) := by
    refine ⟨d.uploadHostname ++ (":" ++ (d.uploadPort.toNat.repr ++ ("/ostelco/sim-inventory/" ++
      (d.hssVendor ++ ("/import-batch/profilevendor/" ++ (d.profileVendor ++
        ("?initialHssState=" ++ d.initialHssState))))))), ?_, ?_⟩
    · unfold uploadUrl
      simp only [String.append_assoc]
    · rw [← hquery]
      simp only [String.toList_append, toList_repr]
      rfl
  have hlast : rest.toList.getLast? = some 'D' := by
    rw [hrest]
    simp [List.getLast?_append, List.getLast?_cons, (query_plain h).2.1]
  rw [hurl, parse_http hlast (by decide), hrest, authorityOn_append fun _ => rfl, filter_behind h]
  rfl

theorem parse_hostname (hne : d.hostname ≠ []) :
    Url.parse ("http://" ++ d.uploadHostname ++ "/") =
      parseAuthority "http".toList .web (d.hostname ++ ['/']) := by
  have htext : (d.uploadHostname ++ "/").toList = d.uploadHostname.toList ++ ['/'] :=
    String.toList_append
  have hlast : (d.uploadHostname ++ "/").toList.getLast? = some '/' := by
    rw [htext, List.getLast?_concat]
  rw [String.append_assoc, parse_http hlast (by decide), htext,
    authorityOn_append fun hnil => absurd hnil hne]
  rfl

/-- A delimiter stands behind the hostname or in it, if it stands in one of the texts. -/
theorem mem_pathText_iff {c : Char} (hc : c = '#' ∨ c = '?') :
    c ∈ d.hostname ++ d.pathText ↔ ∃ s ∈ d.texts, c ∈ s.toList := by
  have hskipped : isSkipped c = false := by rcases hc with rfl | rfl <;> decide
  have hslash : isSlash .web c = false := by rcases hc with rfl | rfl <;> decide
  have hfirst : c ∉ "/ostelco/sim-inventory/".toList := by rcases hc with rfl | rfl <;> decide
  have hsecond : c ∉ "/import-batch/profilevendor/".toList := by
    rcases hc with rfl | rfl <;> decide
  have hhost : c ∈ d.hostname ↔ c ∈ d.uploadHostname.toList :=
    mem_authorityOn_iff hskipped hslash
  have hfilter : ∀ s : List Char, c ∈ s.filter (!isSkipped ·) ↔ c ∈ s := by
    intro s
    rw [List.mem_filter, hskipped]
    exact and_iff_left rfl
  unfold pathText
  generalize "/ostelco/sim-inventory/".toList = first at hfirst
  generalize "/import-batch/profilevendor/".toList = second at hsecond
  rw [List.mem_append, List.mem_append, List.mem_append, List.mem_append, hhost, hfilter, hfilter]
  constructor
  · rintro (h | h | h | h | h)
    · exact ⟨d.uploadHostname, by simp [texts], h⟩
    · exact absurd h hfirst
    · exact ⟨d.hssVendor, by simp [texts], h⟩
    · exact absurd h hsecond
    · exact ⟨d.profileVendor, by simp [texts], h⟩
  · rintro ⟨s, hs, hmem⟩
    rcases List.mem_cons.mp hs with rfl | hs
    · exact .inl hmem
    · rcases List.mem_cons.mp hs with rfl | hs
      · exact .inr (.inr (.inl hmem))
      · obtain rfl := List.mem_singleton.mp hs
        exact .inr (.inr (.inr (.inr hmem)))

/-! ## What the address names -/

theorem ends_of_mark {c : Char} (hc : c = '#' ∨ c = '?') : endsAuthority .web c = true := by
  rcases hc with rfl | rfl <;> decide

/-- An authority and what follows it, as far as marks in it are those in the texts. -/
theorem addresses_of_tail (h : IsHssState d.initialHssState) {credentials : Credentials}
    {host : Host} {p q : Option Nat} {t w : List Char}
    (hanonymous : '@' ∉ d.uploadHostname.toList → credentials = .none)
    (hport : p.or (defaultPort? "http".toList) =
      if d.hostname.any (endsAuthority .web) then q.or (defaultPort? "http".toList)
      else some d.uploadPort.toNat)
    (htail : ∀ c, c = '#' ∨ c = '?' → (c ∈ t ↔ ∃ s ∈ d.texts, c ∈ s.toList)) :
    d.Addresses (ofTail "http".toList credentials (some host) p (webTail (t ++ '?' :: d.query)))
      (ofTail "http".toList credentials (some host) q (webTail w)) := by
  obtain ⟨-, -, hsign, hencode⟩ := query_plain h
  have hnone : ∀ c, c = '#' ∨ c = '?' → (c ∉ t ↔ ∀ s ∈ d.texts, c ∉ s.toList) := by
    intro c hc
    rw [htail c hc]
    exact ⟨fun hno s hs hmem => hno ⟨s, hs, hmem⟩, fun hno ⟨s, hs, hmem⟩ => hno s hs hmem⟩
  have hmark : '#' ∉ t ++ '?' :: d.query ↔ '#' ∉ t := by
    rw [List.mem_append, List.mem_cons, or_iff_left]
    rintro (hcons | hmem)
    · exact absurd hcons (by decide)
    · exact hsign hmem
  constructor
  · rfl
  · rfl
  · exact nofun
  · rfl
  · rfl
  · intro hno
    rw [hanonymous hno]
    exact ⟨rfl, rfl⟩
  · exact hport
  · exact (fragment_webTail_eq_none_iff _).trans (hmark.trans (hnone '#' (.inl rfl)))
  · intro hno
    exact (query_webTail_eq_iff (hmark.mpr ((hnone '#' (.inl rfl)).mpr hno)) hencode).trans
      (hnone '?' (.inr rfl))

/-- A hostname that no authority ends in stands with its port in front of the path. -/
theorem addresses_of_isAuthority (h : IsHssState d.initialHssState) (hx : IsAuthority d.hostname)
    {u : Url} (hu : Url.parse d.uploadUrl = .ok u) :
    ∃ v, Url.parse ("http://" ++ d.uploadHostname ++ "/") = .ok v ∧ d.Addresses u v := by
  obtain ⟨path, hpath⟩ : ∃ path, d.pathText = '/' :: path := ⟨_, rfl⟩
  have hslash : endsAuthority .web '/' = true := by decide
  rw [parse_uploadUrl h, hpath] at hu
  have hread : parseAuthority "http".toList .web
      (d.hostname ++ ':' :: d.portText ++ '/' :: (path ++ '?' :: d.query)) = .ok u := by
    rw [← hu, List.append_assoc]
    rfl
  obtain ⟨credentials, host, hbare, hnamed, hnone⟩ :=
    exists_names_port hx d.allDigits_portText hslash hread
  have hne : d.hostname ≠ [] := by
    intro hnil
    have herror : parseAuthority "http".toList .web ['/'] = .error .emptyHost := rfl
    have hok := hbare '/' [] hslash
    rw [hnil] at hok
    cases herror.symm.trans hok
  have hu' := hread.symm.trans (hnamed '/' (path ++ '?' :: d.query) hslash)
  obtain rfl := Except.ok.inj hu'
  refine ⟨_, (parse_hostname hne).trans (hbare '/' [] hslash), ?_⟩
  refine addresses_of_tail (t := '/' :: path) h (fun hno => hnone fun hmem => ?_) ?_ ?_
  · exact hno ((mem_authorityOn_iff (by decide) (by decide)).mp hmem)
  · have hany : d.hostname.any (endsAuthority .web) = false :=
      List.any_eq_false.mpr fun c hc => by rw [hx c hc]; exact Bool.false_ne_true
    rw [hany, portText, portOf_or _ (render_ne_nil _), value_render]
    rfl
  · intro c hc
    rw [← hpath, ← mem_pathText_iff hc, List.mem_append, or_iff_right]
    intro hmem
    exact Bool.noConfusion ((hx c hmem).symm.trans (ends_of_mark hc))

/-- A hostname that an authority ends in takes the port and the path behind that end. -/
theorem addresses_of_ends (h : IsHssState d.initialHssState) {x more : List Char} {e : Char}
    (hsplit : d.hostname = x ++ e :: more) (hx : IsAuthority x)
    (he : endsAuthority .web e = true) {u : Url} (hu : Url.parse d.uploadUrl = .ok u) :
    ∃ v, Url.parse ("http://" ++ d.uploadHostname ++ "/") = .ok v ∧ d.Addresses u v := by
  have hread : parseAuthority "http".toList .web
      (x ++ e :: (more ++ ':' :: (d.portText ++ (d.pathText ++ '?' :: d.query)))) = .ok u := by
    rw [← hu, parse_uploadUrl h, hsplit, List.append_assoc]
    rfl
  obtain ⟨credentials, host, port, hnamed, hnone⟩ := exists_names hx he hread
  have hne : d.hostname ≠ [] := by
    rw [hsplit]
    simp
  have hu' := hread.symm.trans (hnamed e _ he)
  obtain rfl := Except.ok.inj hu'
  have hv : parseAuthority "http".toList .web (d.hostname ++ ['/']) =
      .ok (ofTail "http".toList credentials (some host) port (webTail (e :: (more ++ ['/'])))) := by
    rw [hsplit, List.append_assoc]
    exact hnamed e (more ++ ['/']) he
  refine ⟨_, (parse_hostname hne).trans hv, ?_⟩
  have htail : e :: (more ++ ':' :: (d.portText ++ (d.pathText ++ '?' :: d.query))) =
      e :: (more ++ ':' :: (d.portText ++ d.pathText)) ++ '?' :: d.query := by
    simp
  rw [htail]
  refine addresses_of_tail h (fun hno => hnone fun hmem => ?_) ?_ ?_
  · refine hno ((mem_authorityOn_iff (by decide) (by decide)).mp ?_)
    show '@' ∈ d.hostname
    rw [hsplit]
    exact List.mem_append_left _ hmem
  · have hany : d.hostname.any (endsAuthority .web) = true :=
      List.any_eq_true.mpr ⟨e, by rw [hsplit]; simp, he⟩
    rw [hany]
    rfl
  · intro c hc
    have hfront : c ∉ x := fun hmem =>
      Bool.noConfusion ((hx c hmem).symm.trans (ends_of_mark hc))
    have hcolon : c ≠ ':' := by rcases hc with rfl | rfl <;> decide
    have hdigits : c ∉ d.portText := fun hmem => by
      have hdigit := d.allDigits_portText c hmem
      rcases hc with rfl | rfl <;> exact absurd hdigit (by decide)
    rw [← mem_pathText_iff hc, hsplit]
    simp [hfront, hcolon, hdigits]

end Declaration

/-- The address of an accepted declaration is one of HTTP. Its host and who asks are those that the
hostname alone names, whatever the vendors are. The port is the declared one unless the hostname
holds the end of an authority, and then the one that the hostname names. There is no fragment as
long as no text holds a number sign; and then the query is the declared state as long as none holds
a question mark. -/
theorem Descriptor.url_addresses {d : Declaration} {b : Descriptor} (h : d.descriptor = .ok b) :
    ∃ u v, Url.parse b.url = .ok u ∧
      Url.parse ("http://" ++ d.uploadHostname ++ "/") = .ok v ∧ d.Addresses u v := by
  obtain ⟨hchecks, q, -, -, rfl⟩ := Declaration.descriptor_eq_ok_iff.mp h
  have hstate : IsHssState d.initialHssState :=
    hchecks ⟨"initial-hss-state", d.initialHssState, IsHssState d.initialHssState⟩
      (by simp [Declaration.checks])
  have hweb : IsWebUrl d.uploadUrl :=
    hchecks ⟨"upload-url", d.uploadUrl, IsWebUrl d.uploadUrl⟩ (by simp [Declaration.checks])
  obtain ⟨u, hu, -⟩ := hweb
  refine ⟨u, ?_⟩
  rcases isAuthority_or_ends d.hostname with hx | ⟨x, e, more, hsplit, hx, he⟩
  · obtain ⟨v, hv, haddresses⟩ := Declaration.addresses_of_isAuthority hstate hx hu
    exact ⟨v, hu, hv, haddresses⟩
  · obtain ⟨v, hv, haddresses⟩ := Declaration.addresses_of_ends hstate hsplit hx he hu
    exact ⟨v, hu, hv, haddresses⟩

/-- The address of the sample names the host, the port and the state that are declared. -/
theorem Declaration.sample_addressed :
    ∃ u v, Url.parse (sample.accepted 10).url = .ok u ∧ Url.parse "http://[::1]/" = .ok v ∧
      u.host = v.host ∧ u.effectivePort? = some 8080 ∧
      u.query = some "initialHssState=ACTIVATED".toList ∧ u.fragment = none := by
  obtain ⟨u, v, hu, hv, haddresses⟩ := Descriptor.url_addresses sample_accepted
  have hsign : ∀ s ∈ sample.texts, '#' ∉ s.toList := by decide
  have hmark : ∀ s ∈ sample.texts, '?' ∉ s.toList := by decide
  refine ⟨u, v, hu, hv, haddresses.host, ?_, ?_, haddresses.fragment.mpr hsign⟩
  · exact haddresses.port.trans (if_neg (by decide))
  · exact (haddresses.query hsign).mpr hmark

/-! ## Another state in the address -/

/-- A vendor with a query and a number sign of its own. -/
def Declaration.marked : Declaration :=
  { sample with hssVendor := "M1?initialHssState=NOT_ACTIVATED#" }

/-- A declaration is accepted though its address holds another state than the declared one, and a
fragment. -/
theorem Declaration.not_addressed :
    ¬ ∀ b u v, marked.descriptor = .ok b → Url.parse b.url = .ok u →
      Url.parse ("http://" ++ marked.uploadHostname ++ "/") = .ok v →
      u.scheme = "http".toList ∧ u.username = [] ∧ u.password = [] ∧ u.host = v.host ∧
        u.effectivePort? = some marked.uploadPort.toNat ∧ u.query = some marked.query ∧
        u.fragment = none := by
  intro hall
  have haccepted : marked.descriptor = .ok (marked.accepted 10) :=
    eq_ok_of_toOption (by decide +kernel)
  have hquery : (Url.parse (marked.accepted 10).url).toOption.bind (·.query) =
      some "initialHssState=NOT_ACTIVATED".toList := by decide +kernel
  have hhostname : (Url.parse ("http://" ++ marked.uploadHostname ++ "/")).toOption.isSome =
      true := by decide +kernel
  cases hu : Url.parse (marked.accepted 10).url with
  | error e =>
    rw [hu] at hquery
    cases hquery
  | ok u =>
    cases hv : Url.parse ("http://" ++ marked.uploadHostname ++ "/") with
    | error e =>
      rw [hv] at hhostname
      cases hhostname
    | ok v =>
      obtain ⟨-, -, -, -, -, hdeclared, -⟩ := hall _ u v haccepted hu hv
      rw [hu] at hquery
      exact absurd (hdeclared.symm.trans hquery) (by decide)

end Provisioning.Batch
