import InstallPlan.Job
import InstallPlan.Proofs.Encoding
import Mathlib.Data.List.DropRight

/-!
# Locating

Where a specification is read from, and as what. Both are decided by the text of a path:
what stands between its separators, without the pieces at the end that are empty or a
single dot (`Path.trimmed`). A path stands for the standard input exactly if the only piece
left is a dash (`Source.isDash_iff`), and for TOML exactly if the last one is a name with the
right extension (`Format.ofPath_eq_toml_iff`).

Pieces further in front that are empty or a dot are no components either, but for the first
one: it stands for a component at the front of the path (`Path.front_eq_nil_iff`), and so
such a path is more than a single name.
-/

namespace InstallPlan

/-- Where dropping from the end stops, something is left that is not dropped. -/
theorem eq_false_of_getLast?_rdropWhile {α : Type} {p : α → Bool} {xs : List α} {x : α}
    (h : (xs.rdropWhile p).getLast? = some x) : p x = false := by
  obtain ⟨start, hstart⟩ := List.getLast?_eq_some_iff.1 h
  have hself := List.rdropWhile_idempotent p xs
  rw [hstart, List.rdropWhile_eq_self_iff] at hself
  simpa using hself

namespace Path

/-! ## Pieces of a path -/

theorem pieces_eq_splitOn (bs : Octets) : pieces bs = bs.splitOn separator := by
  induction bs with
  | nil => rfl
  | cons b rest ih =>
    rw [pieces, List.splitOn_cons_eq_if_modifyHead, ih]
    obtain ⟨first, more, hrest⟩ :=
      List.exists_cons_of_ne_nil (List.splitOn_ne_nil separator rest)
    by_cases hb : b = separator
    · simp [hb]
    · simp [hb, hrest]

/-- Whether a piece is dropped at the end of a path. -/
def isIdle (piece : Octets) : Bool := piece = [] ∨ piece = [dot]

/-- The pieces of a path between its separators, without separators and dots at the end. -/
def trimmed (p : Path) : List Octets := (p.octets.splitOn separator).rdropWhile isIdle

theorem ofPiece?_eq_none_iff {piece : Octets} :
    Component.ofPiece? piece = none ↔ isIdle piece = true := by
  rw [Component.ofPiece?, isIdle, decide_eq_true_iff]
  split
  · rename_i hidle
    exact iff_of_true rfl hidle
  · rename_i hidle
    exact iff_of_false (by split <;> simp) hidle

theorem ofPiece?_eq_name_iff {piece name : Octets} :
    Component.ofPiece? piece = some (.name name) ↔
      isIdle piece = false ∧ piece ≠ [dot, dot] ∧ piece = name := by
  rw [Component.ofPiece?, isIdle, decide_eq_false_iff_not]
  split
  · rename_i hidle
    simp [hidle]
  · rename_i hidle
    split
    · rename_i hparent
      simp [hparent]
    · rename_i hparent
      simp [hidle, hparent]

/-! ## Components -/

/-- The component at the front of a path that is no piece of it. -/
def front (p : Path) : List Component :=
  if p.octets.head? = some separator then [.root]
  else if (pieces p.octets).head? = some [dot] then [.here]
  else []

theorem name_notMem_front (p : Path) (name : Octets) : .name name ∉ p.front := by
  rw [front]
  split
  · simp
  · split <;> simp

/-- The pieces at the end of a path that are dropped are no components. -/
theorem components_eq (p : Path) :
    p.components = p.front ++ p.trimmed.filterMap Component.ofPiece? := by
  have hdropped :
      ((p.octets.splitOn separator).rtakeWhile isIdle).filterMap Component.ofPiece? = [] := by
    rw [List.filterMap_eq_nil_iff]
    intro piece hpiece
    exact ofPiece?_eq_none_iff.2 (List.mem_rtakeWhile_imp hpiece)
  have hsplit : (pieces p.octets).filterMap Component.ofPiece? =
      p.trimmed.filterMap Component.ofPiece? := by
    have hwhole : p.octets.splitOn separator =
        p.trimmed ++ (p.octets.splitOn separator).rtakeWhile isIdle :=
      List.rdropWhile_append_rtakeWhile.symm
    rw [pieces_eq_splitOn, hwhole, List.filterMap_append, hdropped, List.append_nil]
  rw [components, ← hsplit]
  rfl

/-- A path has a component at its front exactly if its first piece is empty or a dot. -/
theorem front_eq_nil_iff {p : Path} {first : Octets} {more : List Octets}
    (h : p.trimmed = first :: more) : p.front = [] ↔ isIdle first = false := by
  obtain ⟨dropped, hpieces⟩ := List.rdropWhile_prefix isIdle (p.octets.splitOn separator)
  change p.trimmed ++ dropped = _ at hpieces
  rw [h, List.cons_append] at hpieces
  rw [front, pieces_eq_splitOn, ← hpieces, isIdle]
  cases hoctets : p.octets with
  | nil =>
    have hnone : p.trimmed = [] := by
      rw [trimmed, hoctets]
      rfl
    rw [hnone] at h
    cases h
  | cons b rest =>
    rw [hoctets, List.splitOn_cons_eq_if_modifyHead] at hpieces
    by_cases hb : b = separator
    · -- a separator in front leaves an empty piece
      rw [if_pos (beq_iff_eq.2 hb)] at hpieces
      simp [hb, (List.cons.inj hpieces).1]
    · obtain ⟨start, others, hrest⟩ :=
        List.exists_cons_of_ne_nil (List.splitOn_ne_nil separator rest)
      rw [if_neg (mt beq_iff_eq.1 hb), hrest, List.modifyHead_cons] at hpieces
      simp [hb, (List.cons.inj hpieces).1]

/-- A path is a single name exactly if that is the only piece left of it. -/
theorem components_eq_name_iff {p : Path} {name : Octets} (hidle : isIdle name = false)
    (hparent : name ≠ [dot, dot]) : p.components = [.name name] ↔ p.trimmed = [name] := by
  have hname : Component.ofPiece? name = some (.name name) :=
    ofPiece?_eq_name_iff.2 ⟨hidle, hparent, rfl⟩
  rw [components_eq]
  constructor
  · intro h
    have hfront : p.front = [] := by
      cases hfront : p.front with
      | nil => rfl
      | cons c rest =>
        rw [hfront, List.cons_append] at h
        have hmem : c ∈ p.front := hfront ▸ List.mem_cons_self
        rw [(List.cons.inj h).1] at hmem
        exact absurd hmem (p.name_notMem_front name)
    rw [hfront, List.nil_append] at h
    cases htrimmed : p.trimmed with
    | nil =>
      rw [htrimmed] at h
      cases h
    | cons first more =>
      -- the first piece is the component, so that all behind it would be dropped
      have hfirst := (front_eq_nil_iff htrimmed).1 hfront
      obtain ⟨c, hc⟩ := Option.ne_none_iff_exists'.1
        (mt ofPiece?_eq_none_iff.1 (Bool.eq_false_iff.1 hfirst))
      rw [htrimmed, List.filterMap_cons_some hc] at h
      obtain ⟨rfl, hmore⟩ := List.cons.inj h
      obtain ⟨-, -, rfl⟩ := ofPiece?_eq_name_iff.1 hc
      rcases List.eq_nil_or_concat' more with rfl | ⟨start, last, rfl⟩
      · rfl
      · have hend : p.trimmed.getLast? = some last := by
          rw [htrimmed, ← List.cons_append, List.getLast?_concat]
        have hlast := eq_false_of_getLast?_rdropWhile hend
        have hnone := List.filterMap_eq_nil_iff.1 hmore last (by simp)
        rw [ofPiece?_eq_none_iff, hlast] at hnone
        cases hnone
  · intro h
    rw [(front_eq_nil_iff h).2 hidle, h, List.nil_append, List.filterMap_cons_some hname]
    rfl

/-- The last component is a name exactly if the last piece that is left is one. -/
theorem lastName?_eq_some_iff {p : Path} {name : Octets} :
    p.lastName? = some name ↔ p.trimmed.getLast? = some name ∧ name ≠ [dot, dot] := by
  rcases List.eq_nil_or_concat' p.trimmed with htrimmed | ⟨start, last, htrimmed⟩
  · have hnone : p.lastName? = none := by
      rw [lastName?, components_eq, htrimmed, List.filterMap_nil, List.append_nil]
      split
      · rename_i octets hlast
        exact absurd (List.mem_of_getLast? hlast) (p.name_notMem_front octets)
      · rfl
    simp [hnone, htrimmed]
  · have hend : p.trimmed.getLast? = some last := by rw [htrimmed, List.getLast?_concat]
    have hlast := eq_false_of_getLast?_rdropWhile hend
    obtain ⟨c, hc⟩ := Option.ne_none_iff_exists'.1
      (mt ofPiece?_eq_none_iff.1 (Bool.eq_false_iff.1 hlast))
    have hcomponent : p.lastName? = some name ↔ c = .name name := by
      rw [lastName?, components_eq, htrimmed, List.filterMap_append,
        List.filterMap_cons_some hc, List.filterMap_nil, ← List.append_assoc,
        List.getLast?_concat]
      cases c <;> simp
    have hpiece : c = .name name ↔ last ≠ [dot, dot] ∧ last = name := by
      rw [← Option.some_inj, ← hc, ofPiece?_eq_name_iff, hlast, eq_self, true_and]
    rw [hcomponent, hpiece, hend, Option.some_inj]
    constructor
    · rintro ⟨hparent, rfl⟩
      exact ⟨rfl, hparent⟩
    · rintro ⟨rfl, hparent⟩
      exact ⟨hparent, rfl⟩

/-! ## Extensions -/

theorem extensionOf?_eq_some_iff {name extension : Octets} :
    extensionOf? name = some extension ↔
      ∃ stem, stem ≠ [] ∧ name = stem ++ dot :: extension ∧ dot ∉ extension := by
  constructor
  · intro h
    rw [extensionOf?] at h
    split at h
    · rename_i hlength
      obtain rfl := Option.some.inj h
      change (name.rtakeWhile (· ≠ dot)).length + 1 < name.length at hlength
      have hwhole : name.rdropWhile (· ≠ dot) ++ name.rtakeWhile (· ≠ dot) = name :=
        List.rdropWhile_append_rtakeWhile
      have hlengths := congrArg List.length hwhole
      rw [List.length_append] at hlengths
      -- what is left in front ends in the last dot, and is longer than that
      rcases List.eq_nil_or_concat' (name.rdropWhile (· ≠ dot)) with hnil | ⟨stem, last, hfront⟩
      · rw [hnil, List.length_nil] at hlengths
        omega
      · have hlast : last = dot := by
          have hend : (name.rdropWhile (· ≠ dot)).getLast? = some last := by
            rw [hfront, List.getLast?_concat]
          simpa using eq_false_of_getLast?_rdropWhile hend
        rw [hfront, List.length_append, List.length_singleton] at hlengths
        refine ⟨stem, ?_, ?_, ?_⟩
        · rintro rfl
          rw [List.length_nil] at hlengths
          omega
        · rw [hfront, hlast, List.append_assoc] at hwhole
          exact hwhole.symm
        · intro hdot
          have hne := List.mem_rtakeWhile_imp (p := (· ≠ dot)) hdot
          simp at hne
    · cases h
  · rintro ⟨stem, hstem, rfl, hdot⟩
    have hbehind : ∀ b ∈ extension.reverse, decide (b ≠ dot) = true := by
      intro b hb
      exact decide_eq_true (ne_of_mem_of_not_mem (List.mem_reverse.1 hb) hdot)
    have hafter : ((stem ++ dot :: extension).reverse.takeWhile (· ≠ dot)).reverse = extension := by
      rw [List.reverse_append, List.reverse_cons, List.append_assoc,
        List.takeWhile_append_of_pos hbehind]
      simp
    have hlength := List.length_pos_iff.2 hstem
    rw [extensionOf?, hafter, if_pos]
    rw [List.length_append, List.length_cons]
    omega

/-- Whether the name of a path says that it holds TOML: its last piece is an ordinary name
with something in front of its last dot and the extension behind it. -/
def IsNamedToml (p : Path) : Prop :=
  ∃ name stem extension, p.trimmed.getLast? = some name ∧ name ≠ [dot, dot] ∧
    name = stem ++ dot :: extension ∧ dot ∉ extension ∧ stem ≠ [] ∧
    extension.map Format.smallLetter = Utf8.encode "toml"

end Path

theorem Source.isDash_iff {p : Path} : isDash p = true ↔ p.trimmed = [Utf8.encode "-"] := by
  rw [isDash, decide_eq_true_iff]
  exact Path.components_eq_name_iff (by decide) (by decide)

example : (Path.ofText "-/./").trimmed = [Utf8.encode "-"] ∧
    (Path.ofText "./-").trimmed ≠ [Utf8.encode "-"] := by decide

theorem Format.ofPath_eq_toml_iff {p : Path} : ofPath p = .toml ↔ p.IsNamedToml := by
  have hextension : ofPath p = .toml ↔ ∃ extension, p.extension? = some extension ∧
      extension.map smallLetter = Utf8.encode "toml" := by
    rw [ofPath]
    split
    · rename_i extension hextension
      simp [hextension]
    · rename_i hnone
      simp [hnone]
  rw [hextension]
  constructor
  · rintro ⟨extension, hextension, htoml⟩
    obtain ⟨name, hname, hextension⟩ := Option.bind_eq_some_iff.1 hextension
    obtain ⟨hlast, hparent⟩ := Path.lastName?_eq_some_iff.1 hname
    obtain ⟨stem, hstem, hsplit, hdot⟩ := Path.extensionOf?_eq_some_iff.1 hextension
    exact ⟨name, stem, extension, hlast, hparent, hsplit, hdot, hstem, htoml⟩
  · rintro ⟨name, stem, extension, hlast, hparent, hsplit, hdot, hstem, htoml⟩
    refine ⟨extension, Option.bind_eq_some_iff.2 ⟨name, ?_, ?_⟩, htoml⟩
    · exact Path.lastName?_eq_some_iff.2 ⟨hlast, hparent⟩
    · exact Path.extensionOf?_eq_some_iff.2 ⟨stem, hstem, hsplit, hdot⟩

/-! ## Loading -/

namespace Specification

variable {η : Type}

/-- What is read as JSON gives the specification that its text gives, or fails for the same
reason. -/
theorem ofOctets_of_json {source : Source} (hformat : source.format = .json) {octets : Octets}
    {text : String} (htext : Utf8.decode? octets = some text) :
    (∀ spec, ofJson text = .ok spec → ofOctets source (.ok octets) = .ok spec) ∧
    ∀ reason, ofJson text = .error reason →
      ∃ failure, ofOctets source (.ok octets) = .error failure ∧
        failure.chain.getLast? = (Cause.fault (.invalidSpecification reason)).chain.getLast? := by
  have hparsed : ofOctets source (.ok octets) =
      (parse text .json).mapError (·.within source.invalid) := by
    simp only [ofOctets, htext, hformat]
  rw [hparsed, parse, readDocument, ofJson]
  cases Json.read text with
  | error e =>
    refine ⟨fun spec h => (nomatch h), fun reason h => ?_⟩
    cases h
    exact ⟨_, rfl, rfl⟩
  | ok document =>
    simp only [Except.mapError]
    cases ofDocument document with
    | error reason =>
      refine ⟨fun spec h => (nomatch h), fun reason h => ?_⟩
      cases h
      exact ⟨_, rfl, rfl⟩
    | ok spec =>
      refine ⟨fun spec h => ?_, fun reason h => (nomatch h)⟩
      cases h
      rfl

/-- **Locating.** A specification is loaded from the standard input, as JSON, exactly if
there is no path or nothing but a dash is left of it. Else it is loaded from the file of the
path, as TOML exactly if the name that is left at the end says so, and as JSON if not. What
is read as JSON and is a text gives the specification that this text gives by itself, or
fails for the same reason in the end. -/
theorem load_reads_from (path? : Option Path) (machine : Machine η) (state : η) :
    let source := Source.ofPath? path?
    let input := (machine.read source state).1
    let loaded := (load path? machine state).1
    let isInput := path? = none ∨ ∃ p, path? = some p ∧ p.trimmed = [Utf8.encode "-"]
    loaded = ofOctets source input ∧
    (source = .standardInput ∧ source.format = .json ↔ isInput) ∧
    (¬ isInput → ∃ p, path? = some p ∧ source = .file p ∧
      (source.format = .toml ↔ p.IsNamedToml) ∧ (source.format = .json ↔ ¬ p.IsNamedToml)) ∧
    (source.format = .json → ∀ octets text, input = .ok octets →
      Utf8.decode? octets = some text →
      (∀ spec, ofJson text = .ok spec → loaded = .ok spec) ∧
      ∀ reason, ofJson text = .error reason →
        ∃ failure, loaded = .error failure ∧
          failure.chain.getLast? =
            (Cause.fault (.invalidSpecification reason)).chain.getLast?) := by
  intro source input loaded isInput
  have hloaded : loaded = ofOctets source input := rfl
  refine ⟨hloaded, ?_, ?_, ?_⟩
  · cases path? with
    | none => exact iff_of_true ⟨rfl, rfl⟩ (.inl rfl)
    | some p =>
      have hdash : isInput ↔ p.trimmed = [Utf8.encode "-"] := by simp [isInput]
      rw [hdash, ← Source.isDash_iff]
      cases h : Source.isDash p <;> simp [source, Source.ofPath?, Source.format, h]
  · intro hfile
    cases path? with
    | none => exact absurd (.inl rfl) hfile
    | some p =>
      have hdash : Source.isDash p = false := by
        rw [← Bool.not_eq_true, Source.isDash_iff]
        exact fun h => hfile (.inr ⟨p, rfl, h⟩)
      have hsource : source = .file p := by simp [source, Source.ofPath?, hdash]
      have hformat : source.format = Format.ofPath p := by rw [hsource, Source.format]
      refine ⟨p, rfl, hsource, ?_⟩
      rw [hformat, ← Format.ofPath_eq_toml_iff]
      cases Format.ofPath p <;> simp
  · intro hformat octets text hinput htext
    rw [hloaded, hinput]
    exact ofOctets_of_json hformat htext

/-- A hidden file in a directory whose name has an extension, with a dot at the end. -/
theorem load_reads_from_hidden :
    let p := Path.ofText "conf.d/.spec.TOML/./"
    Source.ofPath? (some p) = .file p ∧ (Source.ofPath? (some p)).format = .toml := by
  intro p
  let machine : Machine Unit :=
    ⟨fun _ world => (.error .notFound, world), fun _ world => (.ended (.exited 0) [] [], world)⟩
  obtain ⟨-, -, hfile, -⟩ := load_reads_from (some p) machine ()
  have hdash : p.trimmed ≠ [Utf8.encode "-"] := by decide
  have hnamed : p.IsNamedToml :=
    ⟨Utf8.encode ".spec.TOML", Utf8.encode ".spec", Utf8.encode "TOML", by decide, by decide,
      by decide, by decide, by decide, by decide⟩
  obtain ⟨q, hq, hsource, htoml, -⟩ := hfile (by simpa using hdash)
  obtain rfl := Option.some.inj hq
  exact ⟨hsource, htoml.2 hnamed⟩

end Specification

end InstallPlan
