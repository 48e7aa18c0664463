import Polyhierarchy.Proofs.UrlParts

set_option relaxedAutoImplicit false
set_option autoImplicit false

/-!
# Written URLs are read again

The URL of a web page is written part by part. Parts in encoded form are told from each other in the
written form, so a URL is read as it was written. Only of a domain name it has to be known that it
is its own form in ASCII.

## Main definitions

* `Url.Web.portText`, `Url.Web.pathText`, `Url.Web.queryText`, `Url.Web.fragmentText` — the parts of
  the written form.

## Main results

* `Url.isVisible_of_mem_toChars` — a URL is written with visible characters of ASCII.
* `Url.read_toChars` — a URL is read as it was written.
-/

namespace Polyhierarchy.Url

namespace Web

/-- The written port with its colon. -/
def portText (u : Web) : List Char :=
  match u.port with
  | some p => ':' :: Text.decimal p
  | none => []

/-- The written path. -/
def pathText (u : Web) : List Char := u.path.flatMap fun segment => '/' :: segment

/-- The written query with its question mark. -/
def queryText (u : Web) : List Char :=
  match u.query with
  | some q => '?' :: q
  | none => []

/-- The written fragment with its number sign. -/
def fragmentText (u : Web) : List Char :=
  match u.fragment with
  | some f => '#' :: f
  | none => []

lemma toChars_eq (u : Web) : u.toChars = u.scheme ++ ':' :: '/' :: '/' ::
    (u.userInfo ++ (u.host.toChars ++ u.portText) ++
      (u.pathText ++ (u.queryText ++ u.fragmentText))) := by
  show u.scheme ++ [':', '/', '/'] ++ u.userInfo ++ u.host.toChars ++ u.portText ++ u.pathText ++
    u.queryText ++ u.fragmentText = _
  simp only [List.append_assoc, List.cons_append, List.nil_append]

/-- A written path is a slash and the segments with slashes between them. -/
lemma pathText_eq {u : Web} (h : u.path ≠ []) : u.pathText = '/' :: ['/'].intercalate u.path := by
  rw [pathText]
  generalize u.path = path at h
  induction path with
  | nil => exact absurd rfl h
  | cons s path ih =>
    cases path with
    | nil => simp
    | cons t path =>
      rw [List.flatMap_cons, ih (List.cons_ne_nil t path), List.intercalate_cons_cons]
      simp

end Web

/-! ### Characters of the parts -/

/-- What needs no encoding is visible, if controls and blanks need it. -/
lemma isVisible_of_not_mustEncode {mustEncode : Char → Bool}
    (hcontrol : ∀ c, isControl c = true → mustEncode c = true) (hblank : mustEncode ' ' = true)
    {c : Char} (h : mustEncode c = false) : IsVisible c := by
  have hvisible : ¬isControl c = true := fun hc => by simp [hcontrol c hc] at h
  have hspace : c ≠ ' ' := by
    rintro rfl
    simp [hblank] at h
  have hcode : c.toNat ≠ 0x20 := fun hc => hspace (Char.toNat_inj.1 hc)
  simp only [isControl, Bool.or_eq_true, decide_eq_true_eq] at hvisible
  exact ⟨by omega, by omega⟩

lemma isVisible_of_inPath {c : Char} (h : inPath c = false) : IsVisible c :=
  isVisible_of_not_mustEncode (fun _ hc => by simp [inPath, hc]) (by decide) h

lemma isVisible_of_inQuery {c : Char} (h : inQuery c = false) : IsVisible c :=
  isVisible_of_not_mustEncode (fun _ hc => by simp [inQuery, hc]) (by decide) h

lemma isVisible_of_inFragment {c : Char} (h : inFragment c = false) : IsVisible c :=
  isVisible_of_not_mustEncode (fun _ hc => by simp [inFragment, hc]) (by decide) h

/-- User names and passwords may stand where a host may, and hold no colons. -/
lemma isHostChar_of_inUserInfo {c : Char} (h : inUserInfo c = false) : IsHostChar c ∧ c ≠ ':' := by
  have hpath : inPath c = false := (Bool.or_eq_false_iff.1 h).1
  exact Text.of_ascii (P := fun c => inUserInfo c = false → IsHostChar c ∧ c ≠ ':') (by decide)
    (Nat.lt_trans (isVisible_of_inPath hpath).2 (by decide)) h

/-! ### Path, query and fragment -/

/-- The written path is read up to the query or the fragment. -/
lemma readPath_pathText {u : Web} (h : u.Encoded) :
    readPath (u.pathText ++ (u.queryText ++ u.fragmentText)) =
      (u.path, u.queryText ++ u.fragmentText) := by
  have hchars : ∀ c ∈ '/' :: ['/'].intercalate u.path, inPath c = false := by
    refine List.forall_mem_cons.2 ⟨by decide, fun c hc => ?_⟩
    rcases Text.mem_intercalate hc with rfl | ⟨s, hs, hc⟩
    · decide
    · exact ((h.path s hs).chars c hc).1
  have hinside : ∀ c, inPath c = false → (c != '?' && c != '#') = true := fun c hc => by
    simp only [inPath, Bool.or_eq_false_iff, List.contains_cons, beq_eq_false_iff_ne] at hc
    simp [hc.2]
  have htail : (u.queryText ++ u.fragmentText).takeWhile (fun c => c != '?' && c != '#') = [] ∧
      (u.queryText ++ u.fragmentText).dropWhile (fun c => c != '?' && c != '#') =
        u.queryText ++ u.fragmentText := by
    rw [Web.queryText, Web.fragmentText]
    cases u.query <;> cases u.fragment <;> exact ⟨rfl, rfl⟩
  have hpieces : splitPath (['/'].intercalate u.path) = u.path := by
    rw [splitPath_eq]
    refine Text.splitOnP_intercalate (by decide) h.path_ne_nil fun s hs c hc => ?_
    simpa [isSlash] using ((h.path s hs).chars c hc).2
  rw [Web.pathText_eq h.path_ne_nil, readPath,
    List.takeWhile_append_of_pos fun c hc => hinside c (hchars c hc),
    List.dropWhile_append_of_pos fun c hc => hinside c (hchars c hc), htail.1, htail.2,
    List.append_nil]
  simp only
  rw [percentEncode_eq_self fun c hc => hchars c (List.mem_cons_of_mem _ hc), hpieces,
    resolvePath_eq_append h.path_ne_nil h.path]
  rfl

/-- The written query and fragment are read. -/
lemma readQuery_tail {u : Web} (h : u.Encoded) :
    readQuery (u.queryText ++ u.fragmentText) = (u.query, u.fragment) := by
  have hfragment : ∀ f, u.fragment = some f → percentEncode inFragment f = f := fun f hf =>
    percentEncode_eq_self (h.fragment f hf)
  rw [Web.queryText]
  cases hquery : u.query with
  | none =>
    rw [Web.fragmentText]
    cases hf : u.fragment with
    | none => rfl
    | some f => exact congrArg (fun f => (none, some f)) (hfragment f hf)
  | some q =>
    have hhash : ∀ c ∈ q, (c != '#') = true := fun c hc => by
      have hchar := h.query q hquery c hc
      simp only [inQuery, Bool.or_eq_false_iff, List.contains_cons, beq_eq_false_iff_ne] at hchar
      simp [hchar.2]
    have hkept : percentEncode inQuery q = q := percentEncode_eq_self (h.query q hquery)
    rw [List.cons_append, readQuery, List.takeWhile_append_of_pos hhash,
      List.dropWhile_append_of_pos hhash, Web.fragmentText]
    cases hf : u.fragment with
    | none => simp [hkept]
    | some f => simp [hkept, hfragment f hf]

/-! ### Authority -/

lemma isHostChar_of_mem_portText {u : Web} {c : Char} (hc : c ∈ u.portText) : IsHostChar c := by
  rw [Web.portText] at hc
  split at hc
  · rcases List.mem_cons.1 hc with rfl | hc
    · decide
    · exact (isNameChar_of_isDigit (Text.isDigit_of_mem_decimal hc)).1.isHostChar.1
  · cases hc

lemma isHostChar_of_mem_hostPort {u : Web} (h : u.Encoded) {c : Char}
    (hc : c ∈ u.host.toChars ++ u.portText) : IsHostChar c :=
  (List.mem_append.1 hc).elim (h.host.delimited.isHostChar c) isHostChar_of_mem_portText

lemma isHostChar_of_mem_userText {u : Web} (h : u.Encoded) {c : Char}
    (hc : c ∈ u.username ++ if u.password.isEmpty then [] else ':' :: u.password) :
    IsHostChar c := by
  rcases List.mem_append.1 hc with hc | hc
  · exact (isHostChar_of_inUserInfo (h.username c hc)).1
  · split at hc
    · cases hc
    · rcases List.mem_cons.1 hc with rfl | hc
      · decide
      · exact (isHostChar_of_inUserInfo (h.password c hc)).1

lemma isHostChar_of_mem_userInfo {u : Web} (h : u.Encoded) {c : Char} (hc : c ∈ u.userInfo) :
    IsHostChar c ∨ c = '@' := by
  rw [Web.userInfo] at hc
  split at hc
  · cases hc
  · exact (List.mem_append.1 hc).imp (isHostChar_of_mem_userText h) List.mem_singleton.1

/-- The written host and port end at the path. -/
lemma splitAuthority_append {hostPort : List Char} (h : ∀ c ∈ hostPort, IsHostChar c)
    (rest : List Char) :
    splitAuthority true (hostPort ++ '/' :: rest) = (none, hostPort, '/' :: rest) := by
  have hinside : ∀ c ∈ hostPort, (!endsAuthority true c) = true := fun c hc => by
    simp [(h c hc).2.1]
  have hat : ∀ c ∈ hostPort.reverse, (c != '@') = true := fun c hc =>
    bne_iff_ne.2 (h c (List.mem_reverse.1 hc)).2.2
  rw [splitAuthority, List.takeWhile_append_of_pos hinside, List.dropWhile_append_of_pos hinside,
    List.takeWhile_cons_of_neg (by decide), List.dropWhile_cons_of_neg (by decide),
    List.append_nil, List.takeWhile_eq_self_iff.2 hat, List.reverse_reverse, if_pos rfl]

/-- Written user information is told from the host by the sign between them. -/
lemma splitAuthority_at_append {user hostPort : List Char} (huser : ∀ c ∈ user, IsHostChar c)
    (h : ∀ c ∈ hostPort, IsHostChar c) (rest : List Char) :
    splitAuthority true (user ++ ['@'] ++ hostPort ++ '/' :: rest) =
      (some user, hostPort, '/' :: rest) := by
  have hinside : ∀ c ∈ user ++ ['@'] ++ hostPort, (!endsAuthority true c) = true := fun c hc => by
    rcases List.mem_append.1 hc with hc | hc
    · rcases List.mem_append.1 hc with hc | hc
      · simp [(huser c hc).2.1]
      · rw [List.mem_singleton.1 hc]
        decide
    · simp [(h c hc).2.1]
  have hat : ∀ c ∈ hostPort.reverse, (c != '@') = true := fun c hc =>
    bne_iff_ne.2 (h c (List.mem_reverse.1 hc)).2.2
  have hafter : ((user ++ ['@'] ++ hostPort).reverse.takeWhile (· != '@')).reverse = hostPort := by
    have hreverse : (user ++ ['@'] ++ hostPort).reverse =
        hostPort.reverse ++ '@' :: user.reverse := by simp
    rw [hreverse, List.takeWhile_append_of_pos hat, List.takeWhile_cons_of_neg (by decide),
      List.append_nil, List.reverse_reverse]
  have hlength : (user ++ ['@'] ++ hostPort).length = user.length + 1 + hostPort.length := by
    simp only [List.length_append, List.length_singleton]
  rw [splitAuthority, List.takeWhile_append_of_pos hinside, List.dropWhile_append_of_pos hinside,
    List.takeWhile_cons_of_neg (by decide), List.dropWhile_cons_of_neg (by decide),
    List.append_nil, hafter, hlength, if_neg (by omega), Nat.add_sub_cancel, Nat.add_sub_cancel,
    List.append_assoc, List.take_left]

/-- A written user name and password are read. -/
lemma readUserInfo_append {u : Web} (h : u.Encoded) :
    readUserInfo (u.username ++ if u.password.isEmpty then [] else ':' :: u.password) =
      (u.username, u.password) := by
  have hcolon : ∀ c ∈ u.username, (c != ':') = true := fun c hc =>
    bne_iff_ne.2 (isHostChar_of_inUserInfo (h.username c hc)).2
  have hname : (u.username ++ if u.password.isEmpty then [] else ':' :: u.password).takeWhile
      (· != ':') = u.username := by
    rw [List.takeWhile_append_of_pos hcolon]
    split <;> simp
  have hrest : (u.username ++ if u.password.isEmpty then [] else ':' :: u.password).drop
      (u.username.length + 1) = u.password := by
    split
    next hempty => simp [List.isEmpty_iff.1 hempty]
    next => simp [List.drop_append]
  rw [readUserInfo, hname, hrest, percentEncode_eq_self h.username,
    percentEncode_eq_self h.password]

/-- The authority is read up to the path. -/
lemma splitAuthority_toChars {u : Web} (h : u.Encoded) (rest : List Char) :
    ∃ user, splitAuthority true (u.userInfo ++ (u.host.toChars ++ u.portText) ++ '/' :: rest) =
        (user, u.host.toChars ++ u.portText, '/' :: rest) ∧
      readUserInfo (user.getD []) = (u.username, u.password) := by
  have hhost : ∀ c ∈ u.host.toChars ++ u.portText, IsHostChar c := fun c =>
    isHostChar_of_mem_hostPort h
  rw [Web.userInfo]
  split
  next hempty =>
    rw [Bool.and_eq_true, List.isEmpty_iff, List.isEmpty_iff] at hempty
    exact ⟨none, splitAuthority_append hhost rest, by rw [hempty.1, hempty.2]; rfl⟩
  next =>
    exact ⟨some _, splitAuthority_at_append (fun c => isHostChar_of_mem_userText h) hhost rest,
      readUserInfo_append h⟩

/-- The written host and port are told from each other. -/
lemma splitPort_toChars {u : Web} (h : u.Encoded) :
    ∃ portText, splitPort false (u.host.toChars ++ u.portText) = (u.host.toChars, portText) ∧
      readPort (portText.getD []) = .ok u.port := by
  rw [h.host.delimited.splitPort_append, Web.portText]
  cases hport : u.port with
  | none => exact ⟨none, by simp [splitPort], rfl⟩
  | some n =>
    refine ⟨some (Text.decimal n), by simp [splitPort], ?_⟩
    rw [Option.getD_some, readPort, if_neg (by simp [Text.decimal_ne_nil]),
      Text.natOfDigits?_decimal]
    exact if_pos (h.port n hport).1

/-- The authority does not begin with a slash. -/
lemma dropWhile_slashes_toChars {u : Web} (h : u.Encoded) (rest : List Char) :
    (u.userInfo ++ (u.host.toChars ++ u.portText) ++ rest).dropWhile
        (fun c => c == '/' || c == '\\') =
      u.userInfo ++ (u.host.toChars ++ u.portText) ++ rest := by
  have hinside : ∀ c ∈ u.userInfo ++ (u.host.toChars ++ u.portText),
      endsAuthority true c = false := fun c hc => by
    rcases List.mem_append.1 hc with hc | hc
    · rcases isHostChar_of_mem_userInfo h hc with hc | rfl
      · exact hc.2.1
      · decide
    · exact (isHostChar_of_mem_hostPort h hc).2.1
  obtain ⟨c, authority, hauthority⟩ := List.exists_cons_of_ne_nil
    (List.append_ne_nil_of_right_ne_nil u.userInfo
      (List.append_ne_nil_of_left_ne_nil h.host.delimited.ne_nil u.portText))
  have hc := hinside c (hauthority ▸ List.mem_cons_self)
  simp only [endsAuthority, Bool.true_and, Bool.or_eq_false_iff] at hc
  rw [hauthority, List.cons_append, List.dropWhile_cons_of_neg (by simp [hc])]

/-! ### The whole -/

/-- **A URL is written with visible characters of ASCII.** -/
theorem isVisible_of_mem_toChars {u : Web} (h : u.Encoded) {c : Char} (hc : c ∈ u.toChars) :
    IsVisible c := by
  have hscheme : ∀ c ∈ u.scheme, IsVisible c := by
    rw [Web.scheme]
    split
    · exact List.all_iff_forall_prop.1 (by decide)
    · exact List.all_iff_forall_prop.1 (by decide)
  have hquery : ∀ c ∈ u.queryText, IsVisible c := fun c hc => by
    rw [Web.queryText] at hc
    split at hc
    next q hq =>
      rcases List.mem_cons.1 hc with rfl | hc
      · decide
      · exact isVisible_of_inQuery (h.query q hq c hc)
    next => cases hc
  have hfragment : ∀ c ∈ u.fragmentText, IsVisible c := fun c hc => by
    rw [Web.fragmentText] at hc
    split at hc
    next f hf =>
      rcases List.mem_cons.1 hc with rfl | hc
      · decide
      · exact isVisible_of_inFragment (h.fragment f hf c hc)
    next => cases hc
  have hpath : ∀ c ∈ u.pathText, IsVisible c := fun c hc => by
    obtain ⟨s, hs, hc⟩ := List.mem_flatMap.1 hc
    rcases List.mem_cons.1 hc with rfl | hc
    · decide
    · exact isVisible_of_inPath ((h.path s hs).chars c hc).1
  rw [Web.toChars_eq] at hc
  simp only [List.mem_append, List.mem_cons] at hc
  rcases hc with hc | rfl | rfl | rfl | (hc | hc | hc) | hc | hc | hc
  · exact hscheme c hc
  · decide
  · decide
  · decide
  · rcases isHostChar_of_mem_userInfo h hc with hc | rfl
    · exact hc.1
    · decide
  · exact (h.host.delimited.isHostChar c hc).1
  · exact (isHostChar_of_mem_portText hc).1
  · exact hpath c hc
  · exact hquery c hc
  · exact hfragment c hc

/-- A text of visible characters is not changed before it is read. -/
lemma prepare_of_isVisible {s : List Char} (h : ∀ c ∈ s, IsVisible c) : prepare s = s := by
  have hbare : Text.Bare isOuterBlank s := Text.bare_of_forall fun c hc => by
    simpa [isOuterBlank] using (h c hc).1
  have hkept : ∀ c ∈ s, (!isDropped c) = true := fun c hc => by
    have hcode := (h c hc).1
    simp only [isDropped, Bool.not_eq_true', Bool.or_eq_false_iff, beq_eq_false_iff_ne]
    refine ⟨⟨?_, ?_⟩, ?_⟩ <;> rintro rfl <;> revert hcode <;> decide
  show (Text.trimBy isOuterBlank s).filter _ = s
  rw [hbare.trimBy_eq]
  exact List.filter_eq_self.2 hkept

/-- **A URL is read as it was written**, if its host is no domain name, or one that is its own form
in ASCII. -/
theorem read_toChars {u : Web} (h : u.Encoded)
    (hname : ∀ name, u.host = .domain name → domainToAscii? name = some name) :
    read u.toChars = .ok (.web u) := by
  have hscheme : ∀ rest, readScheme (u.scheme ++ ':' :: rest) = some (u.scheme, rest) := by
    intro rest
    rw [Web.scheme]
    cases u.isSecure <;> rfl
  have hpath := readPath_pathText h
  rw [Web.pathText_eq h.path_ne_nil, List.cons_append] at hpath
  obtain ⟨user, hauthority, huser⟩ := splitAuthority_toChars h
    (['/'].intercalate u.path ++ (u.queryText ++ u.fragmentText))
  obtain ⟨portText, hsplit, hport⟩ := splitPort_toChars h
  have hdefault : ¬u.port = some (defaultPort u.isSecure) := fun hp => (h.port _ hp).2 rfl
  have hread : readScheme (prepare u.toChars) = some (u.scheme, '/' :: '/' ::
      (u.userInfo ++ (u.host.toChars ++ u.portText) ++
        (u.pathText ++ (u.queryText ++ u.fragmentText)))) := by
    rw [prepare_of_isVisible fun c => isVisible_of_mem_toChars h, Web.toChars_eq]
    exact hscheme _
  refine read_eq_web_iff.2 ⟨_, hread, ?_⟩
  rw [List.dropWhile_cons_of_pos (by decide), List.dropWhile_cons_of_pos (by decide),
    dropWhile_slashes_toChars h, readWeb_eq_ok_iff, Web.pathText_eq h.path_ne_nil,
    List.cons_append, hauthority]
  simp only
  rw [hsplit]
  refine ⟨h.host.delimited.ne_nil, u.host, u.port, h.host.readHost_toChars hname, hport, ?_⟩
  rw [webOf, huser, hpath, readQuery_tail h, if_neg hdefault]

end Polyhierarchy.Url
