import Mathlib.Data.List.TakeDrop
import Provisioning.Proofs.Url.Host
import Provisioning.Url.Basic
/-!
# The authority of a web address

What stands behind the two slashes, up to the next slash, question mark or number sign, is read as
credentials, a host and a port, whatever follows. A port put behind an authority changes nothing but
the port.

* `IsAuthority` : a text in which no authority ends;
* `takeHost_cases` : where a host ends;
* `takePort_digits`, `takePort_more` : which ports are read;
* `readHost` : host and port, behind the credentials;
* `readHost_port` : a host with a port is a host without one;
* `parseAuthority_eq` : the credentials of an authority do not hang on what follows;
* `Names` : what an authority is read as, whatever follows (`exists_names`);
* `exists_names_port` : an authority with a port behind it, and without.
-/

namespace Provisioning.Url
open Text Decimal

/-- A text in which no authority ends. -/
def IsAuthority (s : List Char) : Prop := ∀ c ∈ s, endsAuthority .web c = false

theorem IsAuthority.tail {c : Char} {s : List Char} (h : IsAuthority (c :: s)) : IsAuthority s :=
  fun d hd => h d (List.mem_cons_of_mem _ hd)

theorem IsAuthority.append {s t : List Char} (hs : IsAuthority s) (ht : IsAuthority t) :
    IsAuthority (s ++ t) := by
  intro c hc
  rcases List.mem_append.mp hc with h | h
  · exact hs c h
  · exact ht c h

/-- An authority ends nowhere in a text, or somewhere for the first time. -/
theorem isAuthority_or_ends (s : List Char) : IsAuthority s ∨
    ∃ x e more, s = x ++ e :: more ∧ IsAuthority x ∧ endsAuthority .web e = true := by
  induction s with
  | nil => exact .inl fun c hc => absurd hc List.not_mem_nil
  | cons c s ih =>
    cases hc : endsAuthority .web c with
    | true => exact .inr ⟨[], c, s, rfl, fun d hd => absurd hd List.not_mem_nil, hc⟩
    | false =>
      rcases ih with hs | ⟨x, e, more, rfl, hx, he⟩
      · exact .inl (List.forall_mem_cons.mpr ⟨hc, hs⟩)
      · exact .inr ⟨c :: x, e, more, rfl, List.forall_mem_cons.mpr ⟨hc, hx⟩, he⟩

theorem takeWhile_authority {s : List Char} (h : IsAuthority s) {e : Char}
    (he : endsAuthority .web e = true) (rest : List Char) :
    (s ++ e :: rest).takeWhile (!endsAuthority .web ·) = s := by
  rw [List.takeWhile_append_of_pos fun c hc => by rw [h c hc]; rfl,
    List.takeWhile_cons_of_neg (by rw [he]; decide), List.append_nil]

theorem ne_colon_of_ends {e : Char} (h : endsAuthority .web e = true) : e ≠ ':' := by
  rintro rfl
  exact absurd h (by decide)

/-! ## Hosts -/

theorem takeHost_ends {e : Char} (he : endsAuthority .web e = true) (inside : Bool)
    (rest : List Char) : takeHost .web inside (e :: rest) = ([], e :: rest) := by
  rw [takeHost, he, Bool.or_true]
  rfl

/-- A host ends at a colon, or it goes on behind the text; then brackets may be open. -/
theorem takeHost_cases {x : List Char} (hx : IsAuthority x) (inside : Bool) :
    (∃ name after, x = name ++ ':' :: after ∧
      ∀ s, takeHost .web inside (x ++ s) = (name, ':' :: (after ++ s))) ∨
    ∃ inside', ∀ s, takeHost .web inside (x ++ s) =
      (x ++ (takeHost .web inside' s).1, (takeHost .web inside' s).2) := by
  induction x generalizing inside with
  | nil => exact .inr ⟨inside, fun s => rfl⟩
  | cons c x ih =>
    have hc := hx c List.mem_cons_self
    cases hcolon : (c == ':' && !inside) with
    | true =>
      have hc' : c = ':' := by
        have h := ((Bool.and_eq_true _ _).mp hcolon).1
        simpa using h
      refine .inl ⟨[], x, by rw [hc']; rfl, fun s => ?_⟩
      rw [List.cons_append, takeHost, hcolon, hc']
      rfl
    | false =>
      have hstep : ∀ s, takeHost .web inside (c :: x ++ s) =
          (c :: (takeHost .web (c == '[' || (inside && c != ']')) (x ++ s)).1,
            (takeHost .web (c == '[' || (inside && c != ']')) (x ++ s)).2) := by
        intro s
        rw [List.cons_append, takeHost, hcolon, hc]
        rfl
      rcases ih hx.tail (c == '[' || (inside && c != ']')) with
        ⟨name, after, rfl, hread⟩ | ⟨inside', hread⟩
      · refine .inl ⟨c :: name, after, rfl, fun s => ?_⟩
        rw [hstep, hread]
      · refine .inr ⟨inside', fun s => ?_⟩
        rw [hstep, hread]
        rfl

theorem takeHost_append_ends {x : List Char} {inside inside' : Bool}
    (h : ∀ s, takeHost .web inside (x ++ s) =
      (x ++ (takeHost .web inside' s).1, (takeHost .web inside' s).2))
    {e : Char} (he : endsAuthority .web e = true) (rest : List Char) :
    takeHost .web inside (x ++ e :: rest) = (x, e :: rest) := by
  rw [h, takeHost_ends he, List.append_nil]

/-! ## Ports -/

theorem takePort_ends (scheme : List Char) {e : Char} (he : endsAuthority .web e = true)
    (rest : List Char) : takePort scheme (e :: rest) = .ok (none, e :: rest) := by
  unfold takePort
  split
  · rename_i t heq
    exact absurd (List.cons.inj heq).1 (ne_colon_of_ends he)
  · rfl

/-- The port that digits name, unless it is the one of the scheme. -/
def portOf (scheme digits : List Char) : Option Nat :=
  if digits.isEmpty || defaultPort? scheme = some (value digits) then none else some (value digits)

theorem portOf_or (scheme : List Char) {digits : List Char} (hne : digits ≠ []) :
    (portOf scheme digits).or (defaultPort? scheme) = some (value digits) := by
  have hempty : digits.isEmpty = false := List.isEmpty_eq_false_iff.mpr hne
  unfold portOf
  rw [hempty, Bool.false_or]
  by_cases h : defaultPort? scheme = some (value digits)
  · rw [if_pos (decide_eq_true h), Option.none_or, h]
  · rw [if_neg (by simpa using h), Option.some_or]

theorem span_digits {digits : List Char} (hd : AllDigits digits) {c : Char}
    (hc : c.isDigit = false) (rest : List Char) :
    (digits ++ c :: rest).span Char.isDigit = (digits, c :: rest) := by
  rw [List.span_eq_takeWhile_dropWhile, List.takeWhile_append_of_pos hd,
    List.dropWhile_append_of_pos hd, List.takeWhile_cons_of_neg (by rw [hc]; decide),
    List.dropWhile_cons_of_neg (by rw [hc]; decide), List.append_nil]

theorem isDigit_of_ends {e : Char} (h : endsAuthority .web e = true) : e.isDigit = false := by
  rw [← Bool.not_eq_true]
  intro hd
  obtain ⟨hlow, hhigh⟩ := digit_bounds hd
  have hchar : e = '/' ∨ e = '?' ∨ e = '#' ∨ e = '\\' := by
    simp [endsAuthority] at h
    tauto
  rcases hchar with rfl | rfl | rfl | rfl
  · exact absurd hlow (by decide)
  · exact absurd hhigh (by decide)
  · exact absurd hlow (by decide)
  · exact absurd hhigh (by decide)

theorem takePort_digits (scheme : List Char) {digits : List Char} (hd : AllDigits digits)
    {e : Char} (he : endsAuthority .web e = true) (rest : List Char) :
    takePort scheme (':' :: (digits ++ e :: rest)) =
      if value digits < portLimit then .ok (portOf scheme digits, e :: rest)
      else .error .invalidPort := by
  rw [takePort, span_digits hd (isDigit_of_ends he)]
  dsimp only
  by_cases hlt : value digits < portLimit
  · have hends : (e :: rest).head?.all (endsAuthority .web) = true := he
    rw [if_neg (Nat.not_le.mpr hlt), if_pos hlt, if_pos hends]
    unfold portOf
    split <;> rfl
  · rw [if_pos (Nat.le_of_not_lt hlt), if_neg hlt]

/-- Behind the digits of a port, the authority has to end. -/
theorem takePort_more (scheme : List Char) {digits : List Char} (hd : AllDigits digits) {c : Char}
    (hc : c.isDigit = false) (hmore : endsAuthority .web c = false) (rest : List Char) :
    takePort scheme (':' :: (digits ++ c :: rest)) = .error .invalidPort := by
  rw [takePort, span_digits hd hc]
  dsimp only
  split
  · rfl
  · exact if_neg (by rw [List.head?_cons, Option.all_some, hmore]; exact Bool.false_ne_true)

theorem digits_cases (a : List Char) :
    AllDigits a ∨ ∃ digits c rest, a = digits ++ c :: rest ∧ AllDigits digits ∧
      c.isDigit = false := by
  induction a with
  | nil => exact .inl fun c hc => absurd hc List.not_mem_nil
  | cons d a ih =>
    cases hd : d.isDigit with
    | false => exact .inr ⟨[], d, a, rfl, fun c hc => absurd hc List.not_mem_nil, hd⟩
    | true =>
      rcases ih with ha | ⟨digits, c, rest, rfl, hdigits, hc⟩
      · exact .inl (List.forall_mem_cons.mpr ⟨hd, ha⟩)
      · exact .inr ⟨d :: digits, c, rest, rfl, List.forall_mem_cons.mpr ⟨hd, hdigits⟩, hc⟩

/-! ## Host and port -/

def hostOf (name : List Char) : Except UrlError Host :=
  if name.isEmpty then .error .emptyHost else Host.parse name

/-- What is read behind the credentials. -/
def readHost (scheme s : List Char) : Except UrlError (Host × Option Nat × List Char) :=
  let (name, t) := takeHost .web false s
  (hostOf name).bind fun host => (takePort scheme t).map fun (port, u) => (host, port, u)

/-- Path, query and fragment of a web address. -/
def webTail (s : List Char) : Tail := (splitTail s).encode .web (normalizePath .web)

theorem parseAuthority_web (scheme s : List Char) :
    parseAuthority scheme .web s = (takeCredentials .web s).bind fun (credentials, s) =>
      (readHost scheme s).map fun (host, port, s) =>
        ofTail scheme credentials (some host) port (webTail s) := by
  unfold parseAuthority readHost hostOf
  cases takeCredentials .web s with
  | error e => rfl
  | ok p =>
    obtain ⟨credentials, s⟩ := p
    dsimp only [bind, Except.bind, Except.map]
    generalize takeHost .web false s = q
    obtain ⟨name, s⟩ := q
    dsimp only
    rcases name with - | ⟨c, name⟩
    · rfl
    · dsimp only [List.isEmpty_cons]
      cases Host.parse (c :: name) with
      | error e => rfl
      | ok host =>
        cases takePort scheme s with
        | error e => rfl
        | ok p => rfl

section Reading

variable {scheme s name t : List Char} {host : Host}

theorem readHost_of_error {why : UrlError} (h : takeHost .web false s = (name, t))
    (hhost : hostOf name = .error why) : readHost scheme s = .error why := by
  unfold readHost
  rw [h]
  dsimp only
  rw [hhost]
  rfl

theorem readHost_of_ok (h : takeHost .web false s = (name, t)) (hhost : hostOf name = .ok host) :
    readHost scheme s = (takePort scheme t).map fun (port, u) => (host, port, u) := by
  unfold readHost
  rw [h]
  dsimp only
  rw [hhost]
  rfl

theorem of_readHost_eq_ok {port : Option Nat} {u : List Char}
    (h : takeHost .web false s = (name, t)) (hok : readHost scheme s = .ok (host, port, u)) :
    hostOf name = .ok host ∧ takePort scheme t = .ok (port, u) := by
  cases hhost : hostOf name with
  | error why => cases (readHost_of_error h hhost).symm.trans hok
  | ok host' =>
    rw [readHost_of_ok h hhost] at hok
    cases hport : takePort scheme t with
    | error why =>
      rw [hport] at hok
      cases hok
    | ok p =>
      rw [hport] at hok
      cases hok
      exact ⟨rfl, rfl⟩

end Reading

/-- A host and its port do not hang on what follows the authority. -/
theorem readHost_cases (scheme : List Char) {r : List Char} (hr : IsAuthority r) :
    (∃ host port, ∀ e rest, endsAuthority .web e = true →
      readHost scheme (r ++ e :: rest) = .ok (host, port, e :: rest)) ∨
    ∃ why, ∀ e rest, endsAuthority .web e = true →
      readHost scheme (r ++ e :: rest) = .error why := by
  rcases takeHost_cases hr false with ⟨name, after, rfl, hread⟩ | ⟨inside, hread⟩
  · cases hhost : hostOf name with
    | error why => exact .inr ⟨why, fun e rest _ => readHost_of_error (hread _) hhost⟩
    | ok host =>
      rcases digits_cases after with hd | ⟨digits, c, more, rfl, hd, hc⟩
      · by_cases hlt : value after < portLimit
        · refine .inl ⟨host, portOf scheme after, fun e rest he => ?_⟩
          rw [readHost_of_ok (hread _) hhost, takePort_digits scheme hd he, if_pos hlt]
          rfl
        · refine .inr ⟨.invalidPort, fun e rest he => ?_⟩
          rw [readHost_of_ok (hread _) hhost, takePort_digits scheme hd he, if_neg hlt]
          rfl
      · refine .inr ⟨.invalidPort, fun e rest _ => ?_⟩
        have hmore : endsAuthority .web c = false := hr c (by simp)
        rw [readHost_of_ok (hread _) hhost, List.append_assoc, List.cons_append,
          takePort_more scheme hd hc hmore]
        rfl
  · cases hhost : hostOf r with
    | error why =>
      exact .inr ⟨why, fun e rest he =>
        readHost_of_error (takeHost_append_ends hread he rest) hhost⟩
    | ok host =>
      refine .inl ⟨host, none, fun e rest he => ?_⟩
      rw [readHost_of_ok (takeHost_append_ends hread he rest) hhost, takePort_ends scheme he]
      rfl

theorem isAuthority_of_allDigits {digits : List Char} (hd : AllDigits digits) :
    IsAuthority digits := by
  intro c hc
  rw [← Bool.not_eq_true]
  intro he
  exact Bool.noConfusion ((isDigit_of_ends he).symm.trans (hd c hc))

theorem takeHost_digits {digits : List Char} (hd : AllDigits digits) (inside : Bool) {e : Char}
    (he : endsAuthority .web e = true) (rest : List Char) :
    takeHost .web inside (digits ++ e :: rest) = (digits, e :: rest) := by
  rcases takeHost_cases (isAuthority_of_allDigits hd) inside with
    ⟨name, after, rfl, -⟩ | ⟨inside', hread⟩
  · exact absurd (hd ':' (by simp)) (by decide)
  · exact takeHost_append_ends hread he rest

/-- A second colon behind the first is no port. -/
theorem takePort_colon (scheme : List Char) {after : List Char} (h : IsAuthority after)
    (s : List Char) : takePort scheme (':' :: (after ++ ':' :: s)) = .error .invalidPort := by
  rcases digits_cases after with hd | ⟨digits, c, more, rfl, hd, hc⟩
  · exact takePort_more scheme hd (by decide) (by decide) s
  · rw [List.append_assoc]
    exact takePort_more scheme hd hc (h c (by simp)) _

theorem hostOf_port (r : List Char) {digits : List Char} (hd : AllDigits digits) {host : Host} :
    hostOf (r ++ ':' :: digits) ≠ .ok host := by
  intro hok
  obtain ⟨why, hwhy⟩ := Host.parse_port r hd
  unfold hostOf at hok
  rw [hwhy] at hok
  split at hok
  · cases hok
  · cases hok

/-- A host with a port behind it is a host without one. In open brackets the port would be part of
the host, and what ends in a port is no host. -/
theorem readHost_port {scheme r digits : List Char} (hr : IsAuthority r) (hd : AllDigits digits)
    {e : Char} {rest s : List Char} (he : endsAuthority .web e = true) {host : Host}
    {port : Option Nat}
    (hok : readHost scheme (r ++ ':' :: (digits ++ e :: rest)) = .ok (host, port, s)) :
    port = portOf scheme digits ∧ ∀ e rest, endsAuthority .web e = true →
      readHost scheme (r ++ e :: rest) = .ok (host, none, e :: rest) := by
  rcases takeHost_cases hr false with ⟨name, after, rfl, hread⟩ | ⟨inside, hread⟩
  · obtain ⟨-, hport⟩ := of_readHost_eq_ok (hread _) hok
    have hafter : IsAuthority after := fun c hc => hr c (by simp [hc])
    cases (takePort_colon scheme hafter _).symm.trans hport
  · cases inside with
    | true =>
      have hname : takeHost .web false (r ++ ':' :: (digits ++ e :: rest)) =
          (r ++ ':' :: digits, e :: rest) := by
        have hcolon : takeHost .web true (':' :: (digits ++ e :: rest)) =
            (':' :: (takeHost .web true (digits ++ e :: rest)).1,
              (takeHost .web true (digits ++ e :: rest)).2) := rfl
        rw [hread, hcolon, takeHost_digits hd true he]
      exact absurd (of_readHost_eq_ok hname hok).1 (hostOf_port r hd)
    | false =>
      have hname : takeHost .web false (r ++ ':' :: (digits ++ e :: rest)) =
          (r, ':' :: (digits ++ e :: rest)) := by
        have hcolon : takeHost .web false (':' :: (digits ++ e :: rest)) =
            ([], ':' :: (digits ++ e :: rest)) := rfl
        rw [hread, hcolon, List.append_nil]
      obtain ⟨hhost, hport⟩ := of_readHost_eq_ok hname hok
      rw [takePort_digits scheme hd he] at hport
      split at hport
      · cases hport
        refine ⟨rfl, fun e rest he => ?_⟩
        rw [readHost_of_ok (takeHost_append_ends hread he rest) hhost, takePort_ends scheme he]
        rfl
      · cases hport

/-! ## Credentials -/

theorem takeCredentials_at {info y : List Char} (hx : IsAuthority (info ++ '@' :: y))
    (hy : '@' ∉ y) {e : Char} (he : endsAuthority .web e = true) (rest : List Char) :
    takeCredentials .web (info ++ '@' :: y ++ e :: rest) =
      if info.isEmpty && (y ++ e :: rest).head?.any (endsAuthority .web) then .error .emptyHost
      else .ok (.read info, y ++ e :: rest) := by
  have hbehind : ((info ++ '@' :: y).reverse.takeWhile (· != '@')).length = y.length := by
    rw [List.reverse_append, List.reverse_cons, List.append_assoc, List.singleton_append,
      List.takeWhile_append_of_pos, List.takeWhile_cons_of_neg (by decide), List.append_nil,
      List.length_reverse]
    intro c hc
    simp only [bne_iff_ne]
    rintro rfl
    exact hy (List.mem_reverse.mp hc)
  have hinfo : (info ++ '@' :: y).take ((info ++ '@' :: y).length - y.length - 1) = info := by
    have hlength : (info ++ '@' :: y).length - y.length - 1 = info.length := by
      rw [List.length_append, List.length_cons]
      omega
    rw [hlength, List.take_left]
  have hrest : (info ++ '@' :: y ++ e :: rest).drop (info.length + 1) = y ++ e :: rest := by
    rw [List.append_assoc, List.cons_append, ← List.drop_drop, List.drop_left]
    rfl
  unfold takeCredentials
  dsimp only
  rw [takeWhile_authority hx he, hbehind, hinfo, hrest, if_pos (by simp)]

theorem takeCredentials_none {y : List Char} (hx : IsAuthority y) (hy : '@' ∉ y) {e : Char}
    (he : endsAuthority .web e = true) (rest : List Char) :
    takeCredentials .web (y ++ e :: rest) = .ok (.none, y ++ e :: rest) := by
  unfold takeCredentials
  dsimp only
  rw [takeWhile_authority hx he, if_neg (by simpa using hy)]

theorem exists_last_at {x : List Char} (h : '@' ∈ x) :
    ∃ info r, x = info ++ '@' :: r ∧ '@' ∉ r := by
  obtain ⟨front, back, hsplit, hfront⟩ := List.eq_append_cons_of_mem (List.mem_reverse.mpr h)
  refine ⟨back.reverse, front.reverse, ?_, fun hmem => hfront (List.mem_reverse.mp hmem)⟩
  have hx := congrArg List.reverse hsplit
  rw [List.reverse_reverse, List.reverse_append, List.reverse_cons, List.append_assoc,
    List.singleton_append] at hx
  exact hx

theorem readHost_nil (scheme : List Char) {e : Char} (he : endsAuthority .web e = true)
    (rest : List Char) : readHost scheme (e :: rest) = .error .emptyHost :=
  readHost_of_error (takeHost_ends he false rest) rfl

/-- The credentials of an authority, and where its host starts, do not hang on what is put behind
it, if that has no at sign. -/
theorem parseAuthority_eq (scheme : List Char) {x : List Char} (hx : IsAuthority x) :
    ∃ credentials r, IsAuthority r ∧ ('@' ∉ x → credentials = .none) ∧
      ∀ t e rest, IsAuthority t → '@' ∉ t → endsAuthority .web e = true →
        parseAuthority scheme .web (x ++ t ++ e :: rest) =
          (readHost scheme (r ++ t ++ e :: rest)).map fun (host, port, s) =>
            ofTail scheme credentials (some host) port (webTail s) := by
  by_cases hat : '@' ∈ x
  · obtain ⟨info, r, rfl, hr⟩ := exists_last_at hat
    have hauthority : IsAuthority r := fun c hc => hx c (by simp [hc])
    refine ⟨.read info, r, hauthority, fun hno => absurd hat hno, fun t e rest ht hno he => ?_⟩
    have hinfo : IsAuthority (info ++ '@' :: (r ++ t)) := by
      rw [← List.cons_append, ← List.append_assoc]
      exact hx.append ht
    have hlast : '@' ∉ r ++ t := by
      rw [List.mem_append]
      tauto
    have hread := takeCredentials_at hinfo hlast he rest
    rw [parseAuthority_web, List.append_assoc info, List.cons_append, hread]
    split
    · -- An ender right behind the at sign: there is no host either way.
      rename_i hempty
      have hnil : r ++ t = [] := by
        rcases hrt : r ++ t with - | ⟨c, y⟩
        · rfl
        · rw [hrt] at hempty
          have hc : endsAuthority .web c = true := by
            simpa using ((Bool.and_eq_true _ _).mp hempty).2
          have hmem : c ∈ r ++ t := by rw [hrt]; exact List.mem_cons_self
          exact Bool.noConfusion ((hauthority.append ht c hmem).symm.trans hc)
      rw [hnil, List.nil_append, readHost_nil scheme he]
      rfl
    · rfl
  · refine ⟨.none, x, hx, fun _ => rfl, fun t e rest ht hno he => ?_⟩
    rw [parseAuthority_web, takeCredentials_none (hx.append ht)
      (by rw [List.mem_append]; tauto) he]
    rfl

/-! ## What an authority names -/

/-- The authority is read as these credentials, this host and this port, whatever follows. -/
def Names (scheme x : List Char) (credentials : Credentials) (host : Host) (port : Option Nat) :
    Prop :=
  ∀ e rest, endsAuthority .web e = true → parseAuthority scheme .web (x ++ e :: rest) =
    .ok (ofTail scheme credentials (some host) port (webTail (e :: rest)))

/-- What is read once is read whatever follows. -/
theorem exists_names {scheme x : List Char} (hx : IsAuthority x) {e : Char} {rest : List Char}
    (he : endsAuthority .web e = true) {u : Url}
    (h : parseAuthority scheme .web (x ++ e :: rest) = .ok u) :
    ∃ credentials host port, Names scheme x credentials host port ∧
      ('@' ∉ x → credentials = .none) := by
  obtain ⟨credentials, r, hr, hnone, hread⟩ := parseAuthority_eq scheme hx
  have hparse : ∀ e rest, endsAuthority .web e = true →
      parseAuthority scheme .web (x ++ e :: rest) =
        (readHost scheme (r ++ e :: rest)).map fun (host, port, s) =>
          ofTail scheme credentials (some host) port (webTail s) := by
    intro e rest he
    have hnil := hread [] e rest (fun c hc => absurd hc List.not_mem_nil) List.not_mem_nil he
    rwa [List.append_nil, List.append_nil] at hnil
  rcases readHost_cases scheme hr with ⟨host, port, hok⟩ | ⟨why, herror⟩
  · refine ⟨credentials, host, port, fun e rest he => ?_, hnone⟩
    rw [hparse e rest he, hok e rest he]
    rfl
  · rw [hparse e rest he, herror e rest he] at h
    cases h

/-- An authority with a port behind it, if it is read at all, is read as without the port. -/
theorem exists_names_port {scheme x digits : List Char} (hx : IsAuthority x)
    (hd : AllDigits digits) {e : Char} {rest : List Char} (he : endsAuthority .web e = true)
    {u : Url}
    (h : parseAuthority scheme .web (x ++ ':' :: digits ++ e :: rest) = .ok u) :
    ∃ credentials host, Names scheme x credentials host none ∧
      Names scheme (x ++ ':' :: digits) credentials host (portOf scheme digits) ∧
      ('@' ∉ x → credentials = .none) := by
  obtain ⟨credentials, r, hr, hnone, hread⟩ := parseAuthority_eq scheme hx
  have hport : IsAuthority (':' :: digits) := by
    intro c hc
    rcases List.mem_cons.mp hc with rfl | hc
    · decide
    · exact isAuthority_of_allDigits hd c hc
  have hno : '@' ∉ ':' :: digits := by
    intro hmem
    rcases List.mem_cons.mp hmem with hat | hat
    · exact absurd hat (by decide)
    · exact absurd (hd _ hat) (by decide)
  have hparse := fun e rest => hread (':' :: digits) e rest hport hno
  rw [hparse e rest he] at h
  rcases readHost_cases scheme (hr.append hport) with ⟨host, port, hok⟩ | ⟨why, herror⟩
  · have hfirst := hok e rest he
    rw [List.append_assoc, List.cons_append] at hfirst
    obtain ⟨rfl, hbare⟩ := readHost_port hr hd he hfirst
    refine ⟨credentials, host, fun e rest he => ?_, fun e rest he => ?_, hnone⟩
    · have hnil := hread [] e rest (fun c hc => absurd hc List.not_mem_nil) List.not_mem_nil he
      rw [List.append_nil, List.append_nil] at hnil
      rw [hnil, hbare e rest he]
      rfl
    · rw [hparse e rest he, hok e rest he]
      rfl
  · rw [herror e rest he] at h
    cases h

end Provisioning.Url
