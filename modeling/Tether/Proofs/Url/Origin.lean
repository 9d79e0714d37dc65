import Tether.Proofs.Steps
import Tether.Proofs.Url.Path

/-!
The front of a URL and what follows it. Under a scheme that needs a host, the text up to the host
and its port is read without a look at the rest (`readAuthority_eq`), and it does not end in a blank
(`readOrigin_last`). Every such URL has these parts (`exists_divides`), and with another rest behind
its front it is read again with this rest in place of its own (`Divides.parse_eq`).
-/

namespace Tether.Url

open Tether.Text

/-- Reads the part of a URL that names the user, the host and the port. -/
def readOrigin (read : DomainReader) (scheme : String) (authority : List Char) :
    Except Fault Url := do
  let (user, place) := (splitUser authority).getD ([], authority)
  let (hostText, portText) := splitPort false place
  if hostText = [] then throw .emptyHost
  let host ← readHost read hostText
  let port ← readPortDigits scheme (portText.getD [])
  return {
    scheme := scheme
    user := readUser user
    host := some host
    port := port
    path := .segments [] }

variable {read : DomainReader}

theorem place_suffix {authority user place : List Char}
    (h : (splitUser authority).getD ([], authority) = (user, place)) : place <:+ authority := by
  cases hs : splitUser authority with
  | none =>
    rw [hs] at h
    cases h
    exact List.suffix_rfl
  | some x =>
    rw [hs] at h
    subst h
    exact splitUser_suffix hs

/-- The front is read without a look at what follows. -/
theorem readAuthority_eq {scheme : String} {authority tail : List Char}
    (ha : ∀ c ∈ authority, Kind.hosted.endsHost c = false) (ht : Follows tail) :
    readAuthority read scheme .hosted (authority ++ tail) =
      (readOrigin read scheme authority).map (readTail .hosted · tail) := by
  have htake : (authority ++ tail).takeWhile (fun c => !Kind.hosted.endsHost c) = authority := by
    rw [List.takeWhile_append_of_pos fun c hc => by simp [ha c hc]]
    cases tail with
    | nil => simp
    | cons c tail => simp [ht c rfl]
  obtain ⟨⟨user, place⟩, hp⟩ : ∃ x, (splitUser authority).getD ([], authority) = x := ⟨_, rfl⟩
  obtain ⟨⟨hostText, portText⟩, hq⟩ : ∃ x, splitPort false place = x := ⟨_, rfl⟩
  have hsuffix := place_suffix hp
  have hplace := splitPort_eq false place
  rw [hq] at hplace
  unfold readAuthority readOrigin
  dsimp only
  rw [htake, List.drop_left, hp]
  dsimp only
  rw [hq]
  dsimp only at hplace ⊢
  cases hostText with
  | nil => split <;> rfl
  | cons c hostText =>
    have hdigits : (portText.getD []).takeWhile (· ≠ '\\') = portText.getD [] := by
      refine List.takeWhile_eq_self_iff.2 fun d hd => ?_
      have hmem : d ∈ authority := by
        refine hsuffix.subset ?_
        cases portText with
        | none => cases hd
        | some port =>
          rw [hplace]
          exact List.mem_append_right _ (List.mem_cons_of_mem _ hd)
      have hslash := ha d hmem
      rw [decide_eq_true_eq]
      rintro rfl
      cases hslash
    have hne : ¬ (user.isEmpty ∧ place.isEmpty ∧ !authority.isEmpty ∧ !tail.isEmpty) := by
      rw [hplace]
      simp
    rw [if_neg hne, hdigits, List.drop_length, List.nil_append]
    cases readHost read (c :: hostText) with
    | error fault => rfl
    | ok host =>
      cases readPortDigits scheme (portText.getD []) with
      | error fault => rfl
      | ok port => rfl

/-- What is read of a front: a host and perhaps a port end it. -/
theorem readOrigin_ok {scheme : String} {authority : List Char} {u : Url}
    (h : readOrigin read scheme authority = .ok u) :
    ∃ user hostText host port, ∃ portText : Option (List Char),
      hostText ++ (portText.map (':' :: ·)).getD [] <:+ authority ∧ hostText ≠ [] ∧
      readHost read hostText = .ok host ∧ readPortDigits scheme (portText.getD []) = .ok port ∧
      u = ⟨scheme, user, some host, port, .segments [], none, none⟩ := by
  obtain ⟨⟨user, place⟩, hp⟩ : ∃ x, (splitUser authority).getD ([], authority) = x := ⟨_, rfl⟩
  obtain ⟨⟨hostText, portText⟩, hq⟩ : ∃ x, splitPort false place = x := ⟨_, rfl⟩
  have hplace := splitPort_eq false place
  unfold readOrigin at h
  rw [hp] at h
  dsimp only at h
  rw [hq] at h hplace
  dsimp only at h hplace
  split at h
  · cases h
  rename_i hne
  cases hh : readHost read hostText with
  | error fault =>
    rw [hh] at h
    cases h
  | ok host =>
    cases hport : readPortDigits scheme (portText.getD []) with
    | error fault =>
      rw [hh, hport] at h
      cases h
    | ok port =>
      rw [hh, hport] at h
      cases h
      exact ⟨_, _, _, _, portText, hplace ▸ place_suffix hp, hne, hh, hport, rfl⟩

theorem readOrigin_path {scheme : String} {authority : List Char} {u : Url}
    (h : readOrigin read scheme authority = .ok u) : u.path = .segments [] := by
  obtain ⟨_, _, _, _, _, -, -, -, -, rfl⟩ := readOrigin_ok h
  rfl

theorem readOrigin_nonempty {scheme : String} {authority : List Char} {u : Url}
    (h : readOrigin read scheme authority = .ok u) : authority ≠ [] := by
  obtain ⟨_, hostText, _, _, _, hsuffix, hne, -⟩ := readOrigin_ok h
  rintro rfl
  rw [List.suffix_nil, List.append_eq_nil_iff] at hsuffix
  exact hne hsuffix.1

/-- The front does not end in a blank. -/
theorem readOrigin_last (hread : read.RefusesBlanks) {scheme : String} {authority : List Char} {u : Url}
    (h : readOrigin read scheme authority = .ok u) :
    ∃ c, authority.getLast? = some c ∧ isOuter c = false := by
  obtain ⟨user, hostText, host, port, portText, ⟨before, hsuffix⟩, hne, hh, hport, -⟩ :=
    readOrigin_ok h
  rw [← hsuffix]
  obtain ⟨c, hc⟩ : ∃ c, hostText.getLast? = some c :=
    Option.ne_none_iff_exists'.1 fun he => hne (List.getLast?_eq_none_iff.1 he)
  match portText with
  | none => exact ⟨c, by simp [hc], readHost_last hread hh hc⟩
  | some [] => exact ⟨':', by simp, by decide⟩
  | some (d :: port) =>
    obtain ⟨x, hx⟩ : ∃ x, (d :: port).getLast? = some x :=
      Option.ne_none_iff_exists'.1 fun he => List.cons_ne_nil _ _ (List.getLast?_eq_none_iff.1 he)
    refine ⟨x, ?_, readPortDigits_last hport hx⟩
    show (before ++ (hostText ++ ':' :: d :: port)).getLast? = some x
    rw [List.getLast?_append, List.getLast?_append, List.getLast?_cons_cons, hx]
    rfl

/-! ## Whole texts -/

/-- The text is a scheme with a colon and any slashes behind it. -/
def Opens (scheme : String) (front : List Char) : Prop :=
  ∃ name slashes, front = name ++ ':' :: slashes ∧ (∀ c ∈ name, isSchemeChar c = true) ∧
    (∃ c, name.head? = some c ∧ c.isAlpha = true) ∧
    scheme = String.ofList (name.map Char.toLower) ∧
    ∀ c ∈ slashes, Kind.hosted.isSlash c = true

/-- The parts of a URL that needs a host. -/
structure Divides (scheme : String) (front authority tail : List Char) : Prop where
  opens : Opens scheme front
  hosted : Kind.ofScheme scheme = .hosted
  names : ∀ c ∈ authority, Kind.hosted.endsHost c = false
  nonempty : authority ≠ []
  follows : Follows tail

theorem readScheme_append {name rest : List Char} (hname : ∀ c ∈ name, isSchemeChar c = true)
    {first : Char} (hfirst : name.head? = some first) (halpha : first.isAlpha = true) :
    readScheme (name ++ ':' :: rest) = some (String.ofList (name.map Char.toLower), rest) := by
  have htake : (name ++ ':' :: rest).takeWhile isSchemeChar = name := by
    rw [List.takeWhile_append_of_pos hname,
      List.takeWhile_cons_of_neg (show ¬ isSchemeChar ':' = true by decide), List.append_nil]
  unfold readScheme
  dsimp only
  rw [htake, List.drop_left, hfirst]
  exact if_pos halpha

theorem readScheme_ok {cs rest : List Char} {scheme : String}
    (h : readScheme cs = some (scheme, rest)) :
    ∃ name first, cs = name ++ ':' :: rest ∧ (∀ c ∈ name, isSchemeChar c = true) ∧
      name.head? = some first ∧ first.isAlpha = true ∧
      scheme = String.ofList (name.map Char.toLower) := by
  unfold readScheme at h
  dsimp only at h
  split at h
  · rename_i first more hfirst hmore
    split at h
    · rename_i halpha
      cases h
      refine ⟨_, _, ?_, fun c hc => ?_, hfirst, halpha, rfl⟩
      · rw [← hmore]
        exact (List.prefix_iff_eq_append.1 (List.takeWhile_prefix _)).symm
      · exact List.mem_takeWhile_imp hc
    · cases h
  · cases h

/-- A URL is read from its parts, the last of them by itself. -/
theorem Divides.parse_eq {scheme s : String} {front authority tail : List Char}
    (hd : Divides scheme front authority tail) (hs : inkOf s = front ++ (authority ++ tail)) :
    parse read s = (readOrigin read scheme authority).map (readTail .hosted · tail) := by
  obtain ⟨name, slashes, hfront, hname, ⟨first, hfirst, halpha⟩, hscheme, hslashes⟩ := hd.opens
  have hread : readScheme (inkOf s) = some (scheme, slashes ++ (authority ++ tail)) := by
    rw [hs, hfront, List.append_assoc, List.cons_append, hscheme]
    exact readScheme_append hname hfirst halpha
  have hdrop : (slashes ++ (authority ++ tail)).dropWhile Kind.hosted.isSlash =
      authority ++ tail := by
    rw [List.dropWhile_append_of_pos hslashes]
    cases ha : authority with
    | nil => exact absurd ha hd.nonempty
    | cons c cs =>
      have hc := hd.names c (ha ▸ List.mem_cons_self)
      refine List.dropWhile_cons_of_neg fun hslash => ?_
      simp [Kind.endsHost, hslash] at hc
  unfold parse
  rw [hread]
  dsimp only
  rw [hd.hosted]
  dsimp only
  rw [hdrop, readAuthority_eq hd.names hd.follows]

theorem readAuthority_scheme {scheme : String} {kind : Kind} {cs : List Char} {u : Url}
    (h : readAuthority read scheme kind cs = .ok u) : u.scheme = scheme := by
  -- whichever host and port are read, the scheme is the one that was handed in
  have hsteps (place : Except Fault (Option Host)) (port : Except Fault (Option UInt16))
      (user : Option User) (tail : List Char) : ∀ v,
      (place >>= fun host => port >>= fun port => pure
        (readTail kind ⟨scheme, user, host, port, .segments [], none, none⟩ tail)) = .ok v →
      v.scheme = scheme := by
    refine of_bind_ok (P := fun v : Url => v.scheme = scheme) fun host _ => ?_
    refine of_bind_ok (P := fun v : Url => v.scheme = scheme) fun port _ v hv => ?_
    cases hv
    rfl
  unfold readAuthority at h
  dsimp only at h
  split at h
  · cases h
  · split at h
    · split at h
      · cases h
      · exact hsteps _ _ _ _ _ h
    · exact hsteps _ _ _ _ _ h

theorem readFile_scheme {cs : List Char} {u : Url} (h : readFile read cs = .ok u) :
    u.scheme = "file" := by
  unfold readFile at h
  simp only [bind, Except.bind, pure, Except.pure] at h
  split at h
  · cases h
    rfl
  · split at h
    · cases h
      rfl
    · split at h
      · cases h
      · cases h
        rfl

/-- Every URL that is read and needs a host has these parts. -/
theorem exists_divides {s : String} {u : Url} (h : parse read s = .ok u)
    (hhosted : Kind.ofScheme u.scheme = .hosted) :
    ∃ front authority tail v, Divides u.scheme front authority tail ∧
      inkOf s = front ++ (authority ++ tail) ∧ readOrigin read u.scheme authority = .ok v ∧
      u = readTail .hosted v tail := by
  unfold parse at h
  split at h
  · cases h
  · rename_i scheme rest hread
    obtain ⟨name, first, hink, hname, hfirst, halpha, hscheme⟩ := readScheme_ok hread
    split at h
    · rename_i rest _ _ hkind
      obtain rfl := readAuthority_scheme h
      let more := rest.dropWhile Kind.hosted.isSlash
      let authority := more.takeWhile fun c => !Kind.hosted.endsHost c
      let tail := more.dropWhile fun c => !Kind.hosted.endsHost c
      have hmore : authority ++ tail = more := List.takeWhile_append_dropWhile
      have hnames : ∀ c ∈ authority, Kind.hosted.endsHost c = false := fun c hc => by
        simpa using List.mem_takeWhile_imp hc
      have hfollows : Follows tail := fun c hc => by
        have hhead := List.head?_dropWhile_not (fun c => !Kind.hosted.endsHost c) more
        rw [Option.mem_def.1 hc] at hhead
        simpa using hhead
      change readAuthority read u.scheme .hosted more = .ok u at h
      rw [← hmore, readAuthority_eq hnames hfollows] at h
      cases ho : readOrigin read u.scheme authority with
      | error fault =>
        rw [ho] at h
        cases h
      | ok v =>
        rw [ho] at h
        refine ⟨name ++ ':' :: rest.takeWhile Kind.hosted.isSlash, authority, tail, v, ?_, ?_, ho,
          (Except.ok.inj h).symm⟩
        · refine ⟨⟨name, _, rfl, hname, ⟨first, hfirst, halpha⟩, hscheme, fun c hc => ?_⟩, hkind,
            hnames, ?_, hfollows⟩
          · exact List.mem_takeWhile_imp hc
          · exact readOrigin_nonempty ho
        · rw [hmore, hink, List.append_assoc, List.cons_append, List.takeWhile_append_dropWhile]
    · rw [readFile_scheme h] at hhosted
      cases hhosted
    · rename_i hkind
      rw [readAuthority_scheme h, hkind] at hhosted
      cases hhosted
    · rename_i hkind
      cases h
      exact absurd (hkind.symm.trans hhosted) (by decide)
    · rename_i hkind _ _
      cases h
      exact absurd (hkind.symm.trans hhosted) (by decide)

end Tether.Url
