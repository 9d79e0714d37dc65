import Tether.Proofs.Config.Merging
import Tether.Proofs.Url.Ink
import Tether.Proofs.Url.Origin

/-!
Where requests for keys go. The settings accept an API URL when its text is read as a URL; the
client keeps the text, takes the slashes off its end and writes the path of the key service behind
it. What comes of this is a URL below the API URL just when a path can be written behind that
(`Extensible`): no blank that counts ends its text, it has no query and no fragment, and its path
does not end in slashes that stay (`Client.reaches_apiUrl_iff`). The settings do not ask for any of
this. A blank at the end, which the settings do not see, makes the text no URL
(`Client.apiUrl_not_reached`).
-/

namespace Tether.Control

open Tether.Config Tether.Url

/-! ## What the settings accept -/

theorem checkUrl_ok {read : DomainReader} {use : UrlUse} {base : String}
    (h : checkUrl read use base = .ok ()) :
    ∃ u, Url.parse read base = .ok u ∧ Kind.ofScheme u.scheme = .hosted := by
  obtain ⟨u, -, hu, hscheme, -⟩ := checkUrl_eq_ok_iff.1 h
  refine ⟨u, hu, ?_⟩
  obtain hhttp | hhttps := hscheme
  · rw [hhttp]
    decide
  · rw [hhttps]
    decide

/-- The settings hold an API URL that passed the check. -/
theorem build_apiUrl {around : Surroundings} {draws : Draws} {args : Args} {file : File} :
    ∀ settings, Settings.build around draws args file = .ok settings →
      checkUrl around.domains .api settings.control.apiUrl = .ok () := by
  intro settings h
  let l : Layers := ⟨around, draws, args, file⟩
  exact checkUrl_eq_ok_iff.2
    ((l.build_eq_ok_iff.1 h).1 (.soundUrl .api) _ (l.build_makes h).apiUrl)

theorem Client.ofConfig_url {config : ClientConfig} {client : Client}
    (h : Client.ofConfig config = .ok client) :
    client.url = dropLastSlashes config.apiUrl ++ keyPath := by
  unfold Client.ofConfig at h
  split at h
  · cases h
  · cases h
    rfl

/-! ## Below a base -/

/-- The URL is the base with the path of the key service added to its path. -/
structure Below (base posted : Url) : Prop where
  scheme : posted.scheme = base.scheme
  host : posted.host = base.host
  port : posted.port = base.port
  path : posted.path.text = dropLastSlashes base.path.text ++ keyPath

/-- A request for a key reaches the key service below the base. -/
def Reaches (read : DomainReader) (url base : String) : Prop :=
  ∃ u v, Url.parse read base = .ok u ∧ Url.parse read url = .ok v ∧ Below u v

/-- A base that a path can be written behind. -/
structure Extensible (read : DomainReader) (base : String) : Prop where
  /-- Of the blanks that end it only tabs and line breaks, which never count. -/
  blanks : ∀ c ∈ base.toList.rtakeWhile isOuter, isInk c = false
  /-- It ends in its path. -/
  plain : ∃ u, Url.parse read base = .ok u ∧ u.query = none ∧ u.fragment = none
  /-- With one slash behind it, its path does not end in two. -/
  slashes : ∃ u, Url.parse read (dropLastSlashes base ++ "/") = .ok u ∧
    ¬ ['/', '/'] <:+ u.path.text.toList

variable {read : DomainReader} {base scheme : String} {front authority tail : List Char} {u v w : Url}

theorem keyPath_not_isOuter : ∀ c ∈ keyPath.toList, isOuter c = false := by
  have hall : keyPath.toList.all (!isOuter ·) = true := by decide
  simpa only [List.all_eq_true, Bool.not_eq_true'] using hall

theorem keyPath_isPathChar : ∀ c ∈ keyPath.toList, isPathChar c = true := by
  have hall : keyPath.toList.all isPathChar = true := by decide
  exact List.all_eq_true.1 hall

/-- A path is no path with slashes taken off it and the key path put behind it. -/
theorem path_ne_trimmed (text : String) : text ≠ dropLastSlashes text ++ keyPath := by
  intro h
  obtain ⟨n, hn⟩ := exists_dropLastSlashes text
  have htext := congrArg String.toList h
  rw [String.toList_append] at htext
  have hslashes : List.replicate n '/' = keyPath.toList :=
    List.append_cancel_left (hn.symm.trans htext)
  have hmem : 's' ∈ List.replicate n '/' := by
    rw [hslashes]
    decide
  cases List.eq_of_mem_replicate hmem

/-- Slashes that end a text are behind its front, which names a host. -/
theorem exists_short_tail {n : ℕ} {ink : List Char} (hd : Divides scheme front authority tail)
    (hink : front ++ (authority ++ tail) = ink ++ List.replicate n '/') :
    ∃ short, ink = front ++ (authority ++ short) ∧ tail = short ++ List.replicate n '/' := by
  rw [← List.append_assoc, List.append_eq_append_iff] at hink
  obtain ⟨short, hshort, htail⟩ | ⟨slashes, hfront, hslashes⟩ := hink
  · exact ⟨short, by rw [hshort, List.append_assoc], htail⟩
  · obtain rfl | ⟨rest, c, rfl⟩ := slashes.eq_nil_or_concat'
    · refine ⟨[], ?_, hslashes.symm⟩
      rw [← List.append_nil ink, ← hfront, List.append_nil]
    · -- the slash would be the last character of the host or its port
      have hc : c = '/' := by
        refine List.eq_of_mem_replicate (n := n) ?_
        rw [hslashes]
        simp
      have hlast : c ∈ authority := by
        obtain ⟨first, d, hauthority⟩ := (authority.eq_nil_or_concat').resolve_left hd.nonempty
        rw [hauthority, ← List.append_assoc, ← List.append_assoc] at hfront
        have := (List.append_inj' hfront rfl).2
        rw [hauthority, List.mem_append]
        exact .inr (by rw [this]; exact List.mem_singleton_self c)
      have := hd.names c hlast
      rw [hc] at this
      cases this

/-! ## Slashes -/

theorem follows_slash {short rest : List Char} (h : Follows (short ++ rest)) (more : List Char) :
    Follows (short ++ '/' :: more) := by
  cases short with
  | nil =>
    intro c hc
    cases hc
    rfl
  | cons c short => exact h

theorem rdropWhile_slashes (cs : List Char) (n : ℕ) :
    (cs ++ List.replicate n '/').rdropWhile (· = '/') = cs.rdropWhile (· = '/') := by
  induction n with
  | zero => rw [List.replicate_zero, List.append_nil]
  | succ n ih =>
    rw [List.replicate_succ', ← List.append_assoc, List.rdropWhile_concat_pos _ _ _ rfl, ih]

theorem rdropWhile_eq_iff (cs : List Char) :
    cs.rdropWhile (· = '/') = cs ↔ ¬ ['/', '/'] <:+ cs ++ ['/'] := by
  obtain rfl | ⟨front, c, rfl⟩ := cs.eq_nil_or_concat'
  · exact iff_of_true rfl fun h => absurd h.length_le (by decide)
  · have hsuffix : ['/', '/'] <:+ front ++ [c] ++ ['/'] ↔ c = '/' := by
      constructor
      · rintro ⟨before, h⟩
        have hfront : before ++ ['/'] = front ++ [c] := by
          refine (List.append_inj' (?_ : before ++ ['/'] ++ ['/'] = front ++ [c] ++ ['/']) rfl).1
          rw [List.append_assoc]
          exact h
        exact (List.cons.inj (List.append_inj' hfront rfl).2).1.symm
      · rintro rfl
        exact ⟨front, by rw [List.append_assoc]; rfl⟩
    rw [hsuffix, List.rdropWhile_concat]
    by_cases hc : c = '/'
    · rw [if_pos (by simp [hc])]
      refine iff_of_false (fun h => ?_) (not_not.2 hc)
      have := (List.rdropWhile_prefix (· = '/') front).length_le
      rw [h, List.length_append, List.length_singleton] at this
      omega
    · rw [if_neg (by simp [hc])]
      exact iff_of_true rfl hc

/-- The key path is added to the path of the base just when no slash is left before it. -/
theorem below_iff {short : List Char} {n : ℕ} (hv : v.path = .segments [])
    (hfollows : Follows (short ++ List.replicate n '/')) :
    Below (readTail .hosted v (short ++ List.replicate n '/'))
        (readTail .hosted v (short ++ keyPath.toList)) ↔
      (∀ c ∈ short, isPathChar c = true) ∧
        ¬ ['/', '/'] <:+ (readTail .hosted v (short ++ ['/'])).path.text.toList := by
  have hkeyFollows : Follows (short ++ keyPath.toList) := keyPath_eq ▸ follows_slash hfollows _
  have hslashFollows : Follows (short ++ ['/']) := follows_slash hfollows _
  by_cases hplain : ∀ c ∈ short, isPathChar c = true
  · have hall {back : List Char} (hback : ∀ c ∈ back, isPathChar c = true) :
        ∀ c ∈ short ++ back, isPathChar c = true :=
      fun c hc => (List.mem_append.1 hc).elim (hplain c) (hback c)
    have hslashes : ∀ c ∈ List.replicate n '/', isPathChar c = true := fun c hc => by
      rw [List.eq_of_mem_replicate hc]
      decide
    obtain ⟨m, hm⟩ := segmentsOf_slashes_text short n
    have hbase : (readTail .hosted v (short ++ List.replicate n '/')).path.text.toList =
        segmentsText (directoriesOf short) ++ List.replicate m '/' := by
      rw [readTail_text hv hfollows (hall hslashes), hm]
    have hposted : (readTail .hosted v (short ++ keyPath.toList)).path.text.toList =
        segmentsText (directoriesOf short) ++ keyPath.toList := by
      rw [readTail_text hv hkeyFollows (hall keyPath_isPathChar), segmentsOf_keyPath,
        segmentsText_append, segmentsText_keyPath]
    have hslash : (readTail .hosted v (short ++ ['/'])).path.text.toList =
        segmentsText (directoriesOf short) ++ ['/'] := by
      rw [readTail_text hv hslashFollows (hall fun c hc => by rw [List.mem_singleton.1 hc]; decide),
        show ['/'] = List.replicate (0 + 1) '/' from rfl, segmentsOf_slashes, segmentsText_append,
        segmentsText_empty]
    rw [hslash, ← rdropWhile_eq_iff, and_iff_right hplain]
    constructor
    · rintro ⟨-, -, -, hpath⟩
      have htext := congrArg String.toList hpath
      rw [hposted, String.toList_append, toList_dropLastSlashes, hbase, rdropWhile_slashes] at htext
      exact (List.append_cancel_right htext).symm
    · intro htrim
      refine ⟨rfl, rfl, rfl, String.toList_inj.1 ?_⟩
      rw [hposted, String.toList_append, toList_dropLastSlashes, hbase, rdropWhile_slashes, htrim]
  · -- the key path went to the query or the fragment
    refine iff_of_false ?_ fun h => hplain h.1
    rintro ⟨-, -, -, hpath⟩
    rw [readTail_path_append hv hplain hkeyFollows hfollows] at hpath
    exact path_ne_trimmed _ hpath

/-! ## Blanks -/

/-- A blank before the key path is a part of the host, which makes the URL none, or of a segment,
which makes the path another one. -/
theorem not_below_of_blanks (hread : read.RefusesBlanks) {blanks : List Char} (hd : Divides scheme front authority tail)
    (ho : readOrigin read scheme authority = .ok v) (hv : v.path = .segments [])
    (hne : blanks ≠ []) (hblanks : ∀ c ∈ blanks, isOuter c = true) {url : String}
    (hurl : inkOf url = front ++ (authority ++ (tail ++ (blanks ++ keyPath.toList))))
    (hw : Url.parse read url = .ok w) : ¬ Below (readTail .hosted v tail) w := by
  rintro ⟨-, -, -, hpath⟩
  by_cases htail : tail = []
  · -- the blanks end the host or its port
    have hd' : Divides scheme front (authority ++ blanks) keyPath.toList :=
      { hd with
        names := fun c hc => (List.mem_append.1 hc).elim (hd.names c) fun hc =>
          isOuter_forall (P := fun c => Kind.hosted.endsHost c = false) (by decide)
            (hblanks c hc)
        nonempty := List.append_ne_nil_of_left_ne_nil hd.nonempty _
        follows := fun c hc => by
          rw [keyPath_eq] at hc
          cases hc
          rfl }
    rw [hd'.parse_eq (by rw [hurl, htail, List.nil_append, List.append_assoc])] at hw
    cases ho' : readOrigin read scheme (authority ++ blanks) with
    | error fault =>
      rw [ho'] at hw
      cases hw
    | ok x =>
      obtain ⟨c, hc, hlast⟩ := readOrigin_last hread ho'
      rw [List.getLast?_append_of_ne_nil _ hne] at hc
      rw [hblanks c (List.mem_of_getLast? hc)] at hlast
      cases hlast
  · -- the blanks end a segment
    have hfollows (back : List Char) : Follows (tail ++ back) := by
      obtain ⟨c, rest, rfl⟩ := List.exists_cons_of_ne_nil htail
      exact hd.follows
    have hd' : Divides scheme front authority (tail ++ (blanks ++ keyPath.toList)) :=
      { hd with follows := hfollows _ }
    rw [hd'.parse_eq hurl, ho] at hw
    cases hw
    by_cases hplain : ∀ c ∈ tail, isPathChar c = true
    · have hall : ∀ c ∈ tail ++ (blanks ++ keyPath.toList), isPathChar c = true := by
        intro c hc
        obtain hc | hc | hc := by simpa only [List.mem_append] using hc
        · exact hplain c hc
        · exact isOuter_forall (P := fun c => isPathChar c = true) (by decide) (hblanks c hc)
        · exact keyPath_isPathChar c hc
      have htext := congrArg String.toList hpath
      rw [String.toList_append, toList_dropLastSlashes, readTail_text hv (hfollows _) hall,
        readTail_text hv hd.follows hplain, ← List.append_assoc, segmentsOf_keyPath,
        segmentsText_append, segmentsText_keyPath] at htext
      have hlength := (List.rdropWhile_prefix (· = '/') (segmentsText (segmentsOf tail))).length_le
      rw [← List.append_cancel_right htext] at hlength
      exact absurd (segmentsOf_blanks htail hne hblanks) (Nat.not_lt_of_le hlength)
    · rw [← List.append_nil tail] at hpath
      rw [List.append_assoc, List.nil_append] at hpath
      rw [readTail_path_append hv hplain (hfollows _) (hfollows [])] at hpath
      exact path_ne_trimmed _ hpath

/-! ## Requests -/

/-- Of the bases that the settings accept, requests go below those that a path can be written
behind, and below no other. -/
theorem reaches_iff (hrefuses : read.RefusesBlanks) {use : UrlUse}
    (h : checkUrl read use base = .ok ()) :
    Reaches read (dropLastSlashes base ++ keyPath) base ↔ Extensible read base := by
  obtain ⟨u, hu, hhosted⟩ := checkUrl_ok h
  obtain ⟨front, authority, tail, v, hd, hink, ho, rfl⟩ := exists_divides hu hhosted
  have hv := readOrigin_path ho
  have hne : inkOf base ≠ [] := by
    rw [hink]
    simp [hd.nonempty]
  have hkey : inkOf (dropLastSlashes base ++ keyPath) =
      leading (dropLastSlashes base).toList ++ keyPath.toList :=
    inkOf_append _ (by decide) keyPath_not_isOuter
  have hslash : inkOf (dropLastSlashes base ++ "/") =
      leading (dropLastSlashes base).toList ++ ['/'] :=
    inkOf_append _ (by decide) fun c hc => by rw [List.mem_singleton.1 hc]; decide
  by_cases hblanks : ∀ c ∈ base.toList.rtakeWhile isOuter, isInk c = false
  · obtain ⟨n, hn⟩ := exists_inkOf_eq hne hblanks
    obtain ⟨short, hshort, rfl⟩ := exists_short_tail hd (hink.symm.trans hn)
    -- both are read with the front of the base
    have hread {back : List Char} {url : String} (hback : Follows (short ++ back))
        (hurl : inkOf url = leading (dropLastSlashes base).toList ++ back) :
        Url.parse read url = .ok (readTail .hosted v (short ++ back)) := by
      have hd' : Divides _ front authority (short ++ back) := { hd with follows := hback }
      rw [hd'.parse_eq (by rw [hurl, hshort]; simp only [List.append_assoc]), ho]
      rfl
    have hposted := hread (follows_slash hd.follows _) hkey
    have hended := hread (follows_slash hd.follows _) hslash
    calc Reaches read (dropLastSlashes base ++ keyPath) base
      _ ↔ Below (readTail .hosted v (short ++ List.replicate n '/'))
            (readTail .hosted v (short ++ keyPath.toList)) := by
          refine ⟨?_, fun hbelow => ⟨_, _, hu, hposted, hbelow⟩⟩
          rintro ⟨u', w, hu', hw, hbelow⟩
          cases hu.symm.trans hu'
          cases hposted.symm.trans hw
          exact hbelow
      _ ↔ (∀ c ∈ short, isPathChar c = true) ∧
            ¬ ['/', '/'] <:+ (readTail .hosted v (short ++ ['/'])).path.text.toList :=
          below_iff hv hd.follows
      _ ↔ Extensible read base := by
          constructor
          · rintro ⟨hplain, hends⟩
            refine ⟨hblanks, ⟨_, hu, (readTail_plain_iff v _).2 fun c hc => ?_⟩, _, hended, hends⟩
            obtain hc | hc := List.mem_append.1 hc
            · exact hplain c hc
            · rw [List.eq_of_mem_replicate hc]
              decide
          · rintro ⟨-, ⟨u', hu', hquery⟩, y, hy, hends⟩
            cases hu.symm.trans hu'
            cases hended.symm.trans hy
            refine ⟨fun c hc => ?_, hends⟩
            exact (readTail_plain_iff v _).1 hquery c (List.mem_append_left _ hc)
  · refine iff_of_false ?_ fun hext => hblanks hext.blanks
    rintro ⟨u', w, hu', hw, hbelow⟩
    cases hu.symm.trans hu'
    obtain ⟨c, hc, hcount⟩ : ∃ c ∈ base.toList.rtakeWhile isOuter, isInk c = true := by
      simpa using hblanks
    have hurl : inkOf (dropLastSlashes base ++ keyPath) = front ++ (authority ++ (tail ++
        ((base.toList.rtakeWhile isOuter).filter isInk ++ keyPath.toList))) := by
      rw [hkey, leading_dropLastSlashes hne (List.ne_nil_of_mem hc), hink]
      simp only [List.append_assoc]
    refine not_below_of_blanks hrefuses hd ho hv ?_ (fun x hx => ?_) hurl hw hbelow
    · exact List.ne_nil_of_mem (List.mem_filter.2 ⟨hc, hcount⟩)
    · exact List.mem_rtakeWhile_imp (List.mem_of_mem_filter hx)

/-- A client that is set up with an accepted API URL posts to the key service below that URL just
when a path can be written behind it, however domain names are read. -/
theorem Client.reaches_apiUrl_iff {around : Surroundings} {draws : Draws} {args : Args}
    {file : File} {settings : Settings} {client : Client}
    (hrefuses : around.domains.RefusesBlanks)
    (hsettings : Settings.build around draws args file = .ok settings)
    (hclient : Client.ofConfig settings.control = .ok client) :
    Reaches around.domains client.url settings.control.apiUrl ↔
      Extensible around.domains settings.control.apiUrl := by
  rw [Client.ofConfig_url hclient]
  exact reaches_iff hrefuses (build_apiUrl settings hsettings)

/-- Arguments that name an API URL. -/
def argsOf (apiUrl : String) : Args := {
  controlUrl := some "https://control.example.com"
  apiUrl := some apiUrl
  apiKey := some "secret"
  hostname := some "h"
  clientId := some "c" }

/-- The configuration of the client that these arguments make. -/
def configOf (apiUrl : String) : ClientConfig := {
  apiUrl := apiUrl
  apiKey := "secret"
  clientId := "c" }

/-- A slash at the end of the API URL does no harm. -/
theorem Client.reaches_apiUrl_iff_versioned : ∃ settings client,
    Settings.build {} ⟨0, 0, 0⟩ (argsOf "https://api.example.com/v1/") {} = .ok settings ∧
      Client.ofConfig settings.control = .ok client ∧
      client.url = "https://api.example.com/v1/server/network-key" ∧
      Reaches readDomain client.url settings.control.apiUrl := by
  obtain ⟨settings, hsettings, hcontrol⟩ := exists_of_toOption (f := (·.control))
    (show (Settings.build {} ⟨0, 0, 0⟩ (argsOf "https://api.example.com/v1/") {}).toOption.map _ =
      some (configOf "https://api.example.com/v1/") by decide +kernel)
  obtain ⟨client, hclient, hurl⟩ := exists_of_toOption (f := (·.url))
    (show (Client.ofConfig settings.control).toOption.map _ =
      some "https://api.example.com/v1/server/network-key" by rw [hcontrol]; decide +kernel)
  refine ⟨settings, client, hsettings, hclient, hurl,
    (Client.reaches_apiUrl_iff refusesBlanks_readDomain hsettings hclient).2 ?_⟩
  rw [hcontrol]
  obtain ⟨u, hu, hplain⟩ := exists_of_toOption (f := fun u : Url => (u.query, u.fragment))
    (show (Url.parse readDomain "https://api.example.com/v1/").toOption.map _ = some (none, none) by
      decide +kernel)
  obtain ⟨v, hv, hpath⟩ := exists_of_toOption (f := (·.path))
    (show (Url.parse readDomain (dropLastSlashes "https://api.example.com/v1/" ++ "/")).toOption.map _ =
      some (.segments ["v1", ""]) by decide +kernel)
  rw [Prod.mk.injEq] at hplain
  have hblanks : "https://api.example.com/v1/".toList.rtakeWhile isOuter = [] := by decide +kernel
  refine ⟨fun c hc => ?_, ⟨u, hu, hplain⟩, v, hv, ?_⟩
  · change c ∈ "https://api.example.com/v1/".toList.rtakeWhile isOuter at hc
    rw [hblanks] at hc
    cases hc
  · rw [hpath]
    decide +kernel

/-- The settings accept an API URL with a blank behind it, and the client posts to a text that is no
URL. -/
theorem Client.apiUrl_not_reached : ∃ settings client,
    Settings.build {} ⟨0, 0, 0⟩ (argsOf "https://api.example.com ") {} = .ok settings ∧
      settings.control.apiUrl = "https://api.example.com " ∧
      Client.ofConfig settings.control = .ok client ∧
      client.url = "https://api.example.com /server/network-key" ∧
      (Url.parse readDomain client.url).toOption = none ∧ ¬ Reaches readDomain client.url settings.control.apiUrl := by
  obtain ⟨settings, hsettings, hcontrol⟩ := exists_of_toOption (f := (·.control))
    (show (Settings.build {} ⟨0, 0, 0⟩ (argsOf "https://api.example.com ") {}).toOption.map _ =
      some (configOf "https://api.example.com ") by decide +kernel)
  obtain ⟨client, hclient, hurl⟩ := exists_of_toOption (f := (·.url))
    (show (Client.ofConfig settings.control).toOption.map _ =
      some "https://api.example.com /server/network-key" by rw [hcontrol]; decide +kernel)
  have hnone : (Url.parse readDomain client.url).toOption = none := by
    rw [hurl]
    decide +kernel
  refine ⟨settings, client, hsettings, by rw [hcontrol]; rfl, hclient, hurl, hnone, ?_⟩
  rintro ⟨u, v, -, hv, -⟩
  rw [hv] at hnone
  cases hnone

end Tether.Control
