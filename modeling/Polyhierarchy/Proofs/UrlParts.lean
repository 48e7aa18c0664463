import Polyhierarchy.Proofs.FormPairs
import Polyhierarchy.Proofs.Hosts

set_option relaxedAutoImplicit false
set_option autoImplicit false

/-!
# The parts of a URL that is read

A text is read as the URL of a web page part by part. Whatever the text is, the parts come out in
their encoded form: none holds a character that would end it, a port that the scheme uses by itself
is left out, and no segment of the path stands for a directory.

## Main definitions

* `Url.IsSegment` — a segment of a path in encoded form.
* `Url.Web.Encoded` — the parts of the URL of a web page are in encoded form.

## Main results

* `Url.read_eq_web_iff` — when a text is read as the URL of a web page.
* `Url.readWeb_eq_ok_iff` — how its parts are read.
* `Url.encoded_of_read` — the parts of a URL that is read are in encoded form.
-/

namespace Polyhierarchy.Url

/-! ### Percent encoding -/

lemma percentEncode_cons (mustEncode : Char → Bool) (c : Char) (s : List Char) :
    percentEncode mustEncode (c :: s) =
      (if mustEncode c then (String.utf8EncodeChar c).flatMap percentByte else [c]) ++
        percentEncode mustEncode s :=
  List.flatMap_cons

/-- A text of characters that need not be encoded stays as it is. -/
lemma percentEncode_eq_self {mustEncode : Char → Bool} {s : List Char}
    (h : ∀ c ∈ s, mustEncode c = false) : percentEncode mustEncode s = s := by
  induction s with
  | nil => rfl
  | cons c s ih =>
    obtain ⟨hc, hs⟩ := List.forall_mem_cons.1 h
    rw [percentEncode_cons, if_neg (by rw [hc]; exact Bool.false_ne_true), ih hs]
    rfl

/-- An encoded text needs no encoding, if percent signs and digits need none. -/
lemma not_mustEncode_of_mem {mustEncode : Char → Bool} (hpercent : mustEncode '%' = false)
    (hdigit : ∀ d < 16, mustEncode (Text.upperHexDigit d) = false) {s : List Char} {c : Char}
    (h : c ∈ percentEncode mustEncode s) : mustEncode c = false := by
  obtain ⟨d, -, hd⟩ := List.mem_flatMap.1 h
  split at hd
  · obtain ⟨b, -, hb⟩ := List.mem_flatMap.1 hd
    rcases mem_percentByte hb with rfl | ⟨n, hn, rfl⟩
    · exact hpercent
    · exact hdigit n hn
  next hkept =>
    rw [List.mem_singleton.1 hd]
    exact Bool.eq_false_iff.2 hkept

/-! ### Segments of a path -/

/-- Whether a text is a segment of a path in encoded form: it is not cut, and it does not stand for
a directory. -/
structure IsSegment (s : List Char) : Prop where
  /-- Nothing needs encoding, and there are no slashes. -/
  chars : ∀ c ∈ s, inPath c = false ∧ c ≠ '/' ∧ c ≠ '\\'
  /-- It is not the directory that it is in. -/
  not_dot : isDot s = false
  /-- It is not the directory above. -/
  not_doubleDot : isDoubleDot s = false

lemma isSegment_nil : IsSegment [] := ⟨fun _ hc => (nomatch hc), by decide, by decide⟩

lemma mem_of_mem_leave {entered : List (List Char)} {s : List Char} (h : s ∈ leave entered) :
    s ∈ entered := by
  cases entered with
  | nil => exact h
  | cons t up =>
    rw [leave] at h
    split at h
    · exact h
    · exact List.mem_cons_of_mem t h

/-- **Once directories are resolved**, only segments are left.

**Proof sketch.** Induction along the path. What was entered are segments: leaving a directory takes
one away, and a text is entered only after it was found to stand for no directory. The empty segment
at the end is one, too. -/
lemma isSegment_of_mem_resolvePath {entered path : List (List Char)}
    (hentered : ∀ s ∈ entered, IsSegment s)
    (hpath : ∀ s ∈ path, ∀ c ∈ s, inPath c = false ∧ c ≠ '/' ∧ c ≠ '\\') :
    ∀ s ∈ resolvePath entered path, IsSegment s := by
  have hclosed : ∀ {entered : List (List Char)}, (∀ s ∈ entered, IsSegment s) →
      ∀ {last}, IsSegment last → ∀ s ∈ entered.reverse ++ [last], IsSegment s :=
    fun hentered _ hlast s hs => by
      rcases List.mem_append.1 hs with hs | hs
      · exact hentered s (List.mem_reverse.1 hs)
      · rw [List.mem_singleton.1 hs]
        exact hlast
  have hleave : ∀ {entered : List (List Char)}, (∀ s ∈ entered, IsSegment s) →
      ∀ s ∈ leave entered, IsSegment s := fun hentered s hs => hentered s (mem_of_mem_leave hs)
  induction path generalizing entered with
  | nil =>
    rw [resolvePath]
    exact hclosed hentered isSegment_nil
  | cons s path ih =>
    obtain ⟨hs, hrest⟩ := List.forall_mem_cons.1 hpath
    cases path with
    | nil =>
      rw [resolvePath]
      split
      · exact hclosed (hleave hentered) isSegment_nil
      · split
        · exact hclosed hentered isSegment_nil
        next hdouble hdot =>
          exact hclosed hentered ⟨hs, Bool.eq_false_iff.2 hdot, Bool.eq_false_iff.2 hdouble⟩
    | cons t path =>
      rw [resolvePath.eq_3 _ _ _ (List.cons_ne_nil t path)]
      split
      · exact ih (hleave hentered) hrest
      · split
        · exact ih hentered hrest
        next hdouble hdot =>
          exact ih (List.forall_mem_cons.2 ⟨⟨hs, Bool.eq_false_iff.2 hdot,
            Bool.eq_false_iff.2 hdouble⟩, hentered⟩) hrest

lemma resolvePath_ne_nil (entered path : List (List Char)) : resolvePath entered path ≠ [] := by
  induction path generalizing entered with
  | nil => simp [resolvePath]
  | cons s path ih =>
    cases path with
    | nil =>
      rw [resolvePath]
      split <;> [skip; split] <;> simp
    | cons t path =>
      rw [resolvePath.eq_3 _ _ _ (List.cons_ne_nil t path)]
      split
      · exact ih _
      · split
        · exact ih _
        · exact ih _

/-- Segments stay as they are. -/
lemma resolvePath_eq_append {entered path : List (List Char)} (hne : path ≠ [])
    (h : ∀ s ∈ path, IsSegment s) : resolvePath entered path = entered.reverse ++ path := by
  induction path generalizing entered with
  | nil => exact absurd rfl hne
  | cons s path ih =>
    obtain ⟨hs, hrest⟩ := List.forall_mem_cons.1 h
    have hdouble : ¬isDoubleDot s = true := Bool.eq_false_iff.1 hs.not_doubleDot
    have hdot : ¬isDot s = true := Bool.eq_false_iff.1 hs.not_dot
    cases path with
    | nil => rw [resolvePath, if_neg hdouble, if_neg hdot]
    | cons t path =>
      rw [resolvePath.eq_3 _ _ _ (List.cons_ne_nil t path), if_neg hdouble, if_neg hdot,
        ih (List.cons_ne_nil t path) hrest, List.reverse_cons, List.append_assoc,
        List.singleton_append]

/-- Whether a path is cut at a character. -/
def isSlash (c : Char) : Bool := c = '/' ∨ c = '\\'

lemma splitPath_eq (s : List Char) : splitPath s = s.splitOnP isSlash := by
  refine Text.eq_splitOnP rfl (fun c cs piece rest h => ?_) s
  rw [splitPath, h]
  simp only [isSlash, decide_eq_true_eq]

/-- The path that is read has at least one segment, and all of them are in encoded form. -/
lemma isSegment_of_readPath (s : List Char) :
    (readPath s).1 ≠ [] ∧ ∀ segment ∈ (readPath s).1, IsSegment segment := by
  rw [readPath]
  refine ⟨resolvePath_ne_nil _ _, isSegment_of_mem_resolvePath (fun _ h => nomatch h) ?_⟩
  intro segment hsegment c hc
  rw [splitPath_eq] at hsegment
  obtain ⟨hmem, hslash⟩ := Text.mem_of_mem_splitOnP hsegment hc
  exact ⟨not_mustEncode_of_mem (by decide) (by decide) hmem, by simpa [isSlash] using hslash⟩

/-! ### All parts -/

/-- The parts of the URL of a web page are in encoded form. -/
structure Web.Encoded (u : Web) : Prop where
  /-- Nothing in the user name needs encoding. -/
  username : ∀ c ∈ u.username, inUserInfo c = false
  /-- Nothing in the password needs encoding. -/
  password : ∀ c ∈ u.password, inUserInfo c = false
  /-- The host is sound. -/
  host : u.host.Sound
  /-- The port is a number of sixteen bits, and not the one of the scheme. -/
  port : ∀ n, u.port = some n → n < UInt16.size ∧ n ≠ defaultPort u.isSecure
  /-- There is a segment. -/
  path_ne_nil : u.path ≠ []
  /-- The path is made of segments. -/
  path : ∀ s ∈ u.path, IsSegment s
  /-- Nothing in the query needs encoding. -/
  query : ∀ q, u.query = some q → ∀ c ∈ q, inQuery c = false
  /-- Nothing in the fragment needs encoding. -/
  fragment : ∀ f, u.fragment = some f → ∀ c ∈ f, inFragment c = false

/-- What follows a step that can fail comes to an end if the step does, and then it does. -/
lemma bind_eq_ok_iff {ε α β : Type} {x : Except ε α} {f : α → Except ε β} {b : β} :
    x >>= f = .ok b ↔ ∃ a, x = .ok a ∧ f a = .ok b := by
  cases x with
  | error e => exact ⟨fun h => (nomatch h), fun ⟨_, h, _⟩ => nomatch h⟩
  | ok a => exact ⟨fun h => ⟨a, rfl, h⟩, fun ⟨_, ha, h⟩ => Except.ok.inj ha ▸ h⟩

/-- The URL of a web page, from the user information, the host, the port, and what follows them. -/
def webOf (isSecure : Bool) (user : Option (List Char)) (host : Host) (port : Option Nat)
    (rest : List Char) : Web where
  isSecure := isSecure
  username := (readUserInfo (user.getD [])).1
  password := (readUserInfo (user.getD [])).2
  host := host
  port := if port = some (defaultPort isSecure) then none else port
  path := (readPath rest).1
  query := (readQuery (readPath rest).2).1
  fragment := (readQuery (readPath rest).2).2

/-- **The URL of a web page is read** if there is a host, and the host and the port can be read. -/
lemma readWeb_eq_ok_iff {isSecure : Bool} {s : List Char} {u : Web} :
    readWeb isSecure s = .ok u ↔
      let (user, hostPort, rest) := splitAuthority true s
      (splitPort false hostPort).1 ≠ [] ∧ ∃ host port,
        readHost (splitPort false hostPort).1 = .ok host ∧
          readPort ((splitPort false hostPort).2.getD []) = .ok port ∧
            webOf isSecure user host port rest = u := by
  rw [readWeb]
  generalize splitAuthority true s = a
  obtain ⟨user, hostPort, rest⟩ := a
  simp only
  by_cases hhost : (splitPort false hostPort).1 = []
  · refine iff_of_false ?_ (fun h => h.1 hhost)
    split
    · exact fun h => nomatch h
    · exact fun h => nomatch h
  · have hsome : ¬(user = some [] ∧ hostPort = [] ∧ rest ≠ []) := fun h =>
      hhost (by rw [h.2.1, splitPort])
    rw [if_neg hsome, if_neg hhost, bind_eq_ok_iff]
    simp only [bind_eq_ok_iff, ne_eq, hhost, not_false_eq_true, true_and, exists_and_left]
    refine exists_congr fun host => and_congr_right fun _ => exists_congr fun port =>
      and_congr_right fun _ => ?_
    exact ⟨Except.ok.inj, congrArg Except.ok⟩

lemma isSecure_of_readWeb {isSecure : Bool} {s : List Char} {u : Web}
    (h : readWeb isSecure s = .ok u) : u.isSecure = isSecure := by
  obtain ⟨-, _, _, -, -, rfl⟩ := readWeb_eq_ok_iff.1 h
  rfl

lemma scheme_eq_http_iff {u : Web} : "http".toList = u.scheme ↔ u.isSecure = false := by
  rw [Web.scheme]
  cases u.isSecure <;> decide

lemma scheme_eq_https_iff {u : Web} : "https".toList = u.scheme ↔ u.isSecure = true := by
  rw [Web.scheme]
  cases u.isSecure <;> decide

/-- **A text is read as the URL of a web page** if its scheme is one of the web, and what follows
the scheme and its slashes can be read. -/
lemma read_eq_web_iff {s : List Char} {u : Web} :
    read s = .ok (.web u) ↔ ∃ rest, readScheme (prepare s) = some (u.scheme, rest) ∧
      readWeb u.isSecure (rest.dropWhile fun c => c == '/' || c == '\\') = .ok u := by
  rw [read]
  generalize readScheme (prepare s) = scheme?
  cases scheme? with
  | none => exact ⟨fun h => (nomatch h), fun ⟨_, h, _⟩ => nomatch h⟩
  | some found =>
    obtain ⟨scheme, rest⟩ := found
    have hright : (∃ rest', some (scheme, rest) = some (u.scheme, rest') ∧
        readWeb u.isSecure (rest'.dropWhile fun c => c == '/' || c == '\\') = .ok u) ↔
        scheme = u.scheme ∧
          readWeb u.isSecure (rest.dropWhile fun c => c == '/' || c == '\\') = .ok u :=
      ⟨fun ⟨_, heq, h⟩ => by cases heq; exact ⟨rfl, h⟩, fun ⟨heq, h⟩ => ⟨rest, heq ▸ rfl, h⟩⟩
    have hleft : ∀ {x : Except Fault Web},
        (do return Url.web (← x)) = .ok (.web u) ↔ x = .ok u := by
      intro x
      cases x <;> simp [bind, Except.bind, pure, Except.pure]
    rw [hright]
    simp only
    split
    next hscheme =>
      rw [hleft, hscheme, scheme_eq_http_iff]
      exact ⟨fun h => ⟨isSecure_of_readWeb h, isSecure_of_readWeb h ▸ h⟩, fun h => h.1 ▸ h.2⟩
    next hhttp =>
      split
      next hscheme =>
        rw [hleft, hscheme, scheme_eq_https_iff]
        exact ⟨fun h => ⟨isSecure_of_readWeb h, isSecure_of_readWeb h ▸ h⟩, fun h => h.1 ▸ h.2⟩
      next hhttps =>
        -- the other schemes are kept by name only
        have hother : ∀ {α : Type} {x : Except Fault α},
            ¬(do let _ ← x; return Url.other scheme) = Except.ok (Url.web u) := fun {α x} h => by
          obtain ⟨_, -, h⟩ := bind_eq_ok_iff.1 h
          cases h
        refine iff_of_false ?_ fun h => ?_
        · split
          · exact hother
          · split
            · exact hother
            · split
              · exact hother
              · exact fun h => nomatch h
        · cases hsecure : u.isSecure with
          | false => exact hhttp (h.1.trans (scheme_eq_http_iff.2 hsecure).symm)
          | true => exact hhttps (h.1.trans (scheme_eq_https_iff.2 hsecure).symm)

/-- A port that is read is a number of sixteen bits. -/
lemma lt_size_of_readPort {s : List Char} {n : Nat} (h : readPort s = .ok (some n)) :
    n < UInt16.size := by
  rw [readPort] at h
  split at h
  · cases h
  · split at h
    · split at h
      next hn =>
        cases h
        exact hn
      · cases h
    · cases h

/-- Nothing in the query and in the fragment that are read needs encoding. -/
lemma not_mustEncode_of_readQuery (s : List Char) :
    (∀ q, (readQuery s).1 = some q → ∀ c ∈ q, inQuery c = false) ∧
      ∀ f, (readQuery s).2 = some f → ∀ c ∈ f, inFragment c = false := by
  have hquery : ∀ {q q' : List Char}, some (percentEncode inQuery q) = some q' →
      ∀ c ∈ q', inQuery c = false := fun hq c hc => by
    rw [← Option.some.inj hq] at hc
    exact not_mustEncode_of_mem (by decide) (by decide) hc
  have hfragment : ∀ {f f' : List Char}, some (percentEncode inFragment f) = some f' →
      ∀ c ∈ f', inFragment c = false := fun hf c hc => by
    rw [← Option.some.inj hf] at hc
    exact not_mustEncode_of_mem (by decide) (by decide) hc
  rw [readQuery.eq_def]
  simp only
  split
  next =>
    refine ⟨fun q => hquery, fun f hf => ?_⟩
    split at hf
    · exact hfragment hf
    · cases hf
  next =>
    refine ⟨fun q hq => (nomatch hq), fun f hf => ?_⟩
    split at hf
    · exact hfragment hf
    · cases hf

/-- **The parts of a URL that is read are in encoded form.** -/
theorem encoded_of_read {s : List Char} {u : Web} (h : read s = .ok (.web u)) : u.Encoded := by
  obtain ⟨rest, -, h⟩ := read_eq_web_iff.1 h
  obtain ⟨-, host, port, hhost, hport, hu⟩ := readWeb_eq_ok_iff.1 h
  rw [← hu]
  obtain ⟨hne, hsegments⟩ := isSegment_of_readPath (splitAuthority true _).2.2
  obtain ⟨hquery, hfragment⟩ := not_mustEncode_of_readQuery _
  exact {
    username := fun c hc => not_mustEncode_of_mem (by decide) (by decide) hc
    password := fun c hc => not_mustEncode_of_mem (by decide) (by decide) hc
    host := sound_of_readHost hhost
    port := fun n hn => by
      simp only [webOf] at hn ⊢
      split at hn
      · cases hn
      next hdefault =>
        rw [hn] at hport hdefault
        exact ⟨lt_size_of_readPort hport, fun h => hdefault (congrArg some h)⟩
    path_ne_nil := hne
    path := hsegments
    query := hquery
    fragment := hfragment }

end Polyhierarchy.Url
