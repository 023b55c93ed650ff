import TaggedPage.Font.Library
import TaggedPage.Proofs.Outcome

/-! # The requests behind a library

A library is loaded by asking a provider for the files of its variants, in the order of the
variants and once for each variant that has a file. Two variants may name the same file;
it is asked for twice then, and they get two faces.

`Loads` says that a provider serves requests one after the other and which fonts they give.
What one request does is told by `loadFace_asks`, a sequence of them by induction from it
(`foldlM_put_asks`), with the provider and with one that notes the paths side by side. The
library that loaded fonts make is `withFonts`; which faces it has and how they are shared
does not depend on where the fonts came from (`isMadeOf_withFonts`). Together they say which
requests are made for a library, and what comes of them (`load_asks_in_order`).
-/

namespace TaggedPage.Font

variable {σ : Type}

/-! ## Requests -/

namespace Sources

def request? (s : Sources) (v : Variant) : Option (Variant × String) := (s.path? v).map (v, ·)

/-- The requests for all files, in the order of the variants. -/
def requests (s : Sources) : List (Variant × String) := Variant.all.filterMap s.request?

/-- The variant whose file a variant is drawn with. -/
def owner (s : Sources) (v : Variant) : Variant := if (s.path? v).isSome then v else .normal

theorem requests_eq (s : Sources) :
    s.requests = (.normal, s.regular) :: [.bold, .italic, .boldItalic].filterMap s.request? := rfl

/-- Requests are for the variants that have a file. -/
theorem variants_filterMap (s : Sources) (vs : List Variant) :
    (vs.filterMap s.request?).map (·.1) = vs.filter fun v => (s.path? v).isSome := by
  induction vs with
  | nil => rfl
  | cons v vs ih => cases h : s.path? v <;> simp [request?, h, ih]

end Sources

/-- The provider, asked for a path in the first state, gives a file that is read as a font
for the variant, which leaves it in the last state. -/
def Supplies (p : Provider (StateM σ)) (s : σ) (v : Variant) (path : String) (font : TrueType)
    (t : σ) : Prop :=
  ∃ data, (p.load path).run s = (.ok data, t) ∧ TrueType.read v data = .ok font

/-- The provider, asked for a path in the first state, gives no file or none that is read
as a font. The error names the variant, and the path of a missing file. -/
inductive Refuses (p : Provider (StateM σ)) (s : σ) (v : Variant) (path : String) :
    LibraryError → σ → Prop
  | missing {source : ResourceError} {t : σ} (load : (p.load path).run s = (.error source, t)) :
      Refuses p s v path (.missing v path source) t
  | unreadable {data : ByteArray} {cause : FaceError} {t : σ}
      (load : (p.load path).run s = (.ok data, t)) (read : TrueType.read v data = .error cause) :
      Refuses p s v path (.unreadable v cause) t

/-- The provider serves requests one after the other, with these fonts. -/
inductive Loads (p : Provider (StateM σ)) :
    σ → List (Variant × String) → List (Variant × TrueType) → σ → Prop
  | nil (s : σ) : Loads p s [] [] s
  | cons {s t u : σ} {v : Variant} {path : String} {font : TrueType}
      {requests : List (Variant × String)} {loaded : List (Variant × TrueType)}
      (first : Supplies p s v path font t) (rest : Loads p t requests loaded u) :
      Loads p s ((v, path) :: requests) ((v, font) :: loaded) u

section Answers

variable {p : Provider (StateM σ)} {s t t' : σ} {v : Variant} {path : String}

/-- A provider gives one font for a request. -/
theorem Supplies.unique {font font' : TrueType} (h : Supplies p s v path font t)
    (h' : Supplies p s v path font' t') : font = font' ∧ t = t' := by
  obtain ⟨data, hload, hread⟩ := h
  obtain ⟨data', hload', hread'⟩ := h'
  obtain ⟨hdata, rfl⟩ := Prod.mk.inj (hload.symm.trans hload')
  obtain rfl := Except.ok.inj hdata
  exact ⟨Except.ok.inj (hread.symm.trans hread'), rfl⟩

/-- A request that is refused is not served. -/
theorem Refuses.not_supplies {cause : LibraryError} (h : Refuses p s v path cause t)
    (font : TrueType) : ¬ Supplies p s v path font t' := by
  rintro ⟨data, hload', hread'⟩
  cases h with
  | missing hload => cases (Prod.mk.inj (hload.symm.trans hload')).1
  | unreadable hload hread =>
    obtain rfl := Except.ok.inj (Prod.mk.inj (hload.symm.trans hload')).1
    cases hread.symm.trans hread'

namespace Loads

/-- Fonts are loaded for the variants that are asked for. -/
theorem variants {requests : List (Variant × String)} {loaded : List (Variant × TrueType)}
    (h : Loads p s requests loaded t) : loaded.map (·.1) = requests.map (·.1) := by
  induction h with
  | nil => rfl
  | cons _ _ ih => exact congrArg (_ :: ·) ih

/-- A loaded font was read for its variant. -/
theorem read_of_mem {requests : List (Variant × String)} {loaded : List (Variant × TrueType)}
    (h : Loads p s requests loaded t) {font : TrueType} (hmem : (v, font) ∈ loaded) :
    ∃ data, TrueType.read v data = .ok font := by
  induction h with
  | nil => cases hmem
  | cons first _ ih =>
    cases hmem with
    | head =>
      obtain ⟨data, -, hread⟩ := first
      exact ⟨data, hread⟩
    | tail _ hmem => exact ih hmem

/-- Requests of which one is refused behind served ones are not all served. -/
theorem not_refuses {before after : List (Variant × String)} {u u' : σ}
    {loaded loaded' : List (Variant × TrueType)} {cause : LibraryError}
    (hbefore : Loads p s before loaded u) (hrefused : Refuses p u v path cause t) :
    ¬ Loads p s (before ++ (v, path) :: after) loaded' u' := by
  intro h
  induction hbefore generalizing loaded' with
  | nil =>
    cases h with
    | cons first _ => exact hrefused.not_supplies _ first
  | cons first _ ih =>
    cases h with
    | cons first' rest' =>
      obtain ⟨-, rfl⟩ := first.unique first'
      exact ih hrefused rest'

end Loads

end Answers

/-! ## Loading -/

/-- One request puts a face into a library. -/
def Library.put {m : Type → Type} [Monad m] (p : Provider m) (l : Library)
    (request : Variant × String) : ExceptT LibraryError m Library := do
  return l.replace request.1 (← loadFace p request.1 request.2)

/-- Loading the faces of variants makes their requests. -/
theorem foldlM_loadVariant {m : Type → Type} [Monad m] [LawfulMonad m] (p : Provider m)
    (sources : Sources) (vs : List Variant) (l : Library) :
    vs.foldlM (Library.loadVariant p sources) l =
      (vs.filterMap sources.request?).foldlM (Library.put p) l := by
  induction vs generalizing l with
  | nil => rfl
  | cons v vs ih =>
    cases h : sources.path? v with
    | none => simp [Library.loadVariant, Sources.request?, h, ih]
    | some path => simp [Library.loadVariant, Library.put, Sources.request?, h, ih]

/-- What a request comes to once the provider has answered it. -/
def outcomeOf (v : Variant) (path : String) :
    Except ResourceError ByteArray → Except LibraryError Face
  | .error source => .error (.missing v path source)
  | .ok data =>
    match TrueType.read v data with
    | .error cause => .error (.unreadable v cause)
    | .ok font => .ok (.trueType font)

/-- A face is loaded by one request. -/
theorem run_loadFace {m : Type → Type} [Monad m] [LawfulMonad m] (p : Provider m) (v : Variant)
    (path : String) : (loadFace p v path).run = outcomeOf v path <$> p.load path := by
  refine (ExceptT.run_bind_lift (p.load path) _).trans ?_
  rw [← bind_pure_comp]
  refine bind_congr fun given => ?_
  cases given with
  | error source => rfl
  | ok data => cases h : TrueType.read v data <;> simp [outcomeOf, h]

/-- A provider that notes paths answers as before. -/
theorem run_load_logged (p : Provider (StateM σ)) (path : String) (noted : List String) (s : σ) :
    ((p.logged.load path).run noted).run s =
      ((((p.load path).run s).1, noted ++ [path]), ((p.load path).run s).2) := rfl

/-- One request asks for its path once. The face is the font that the provider supplies, and
the error is the one with which it refuses. -/
theorem loadFace_asks (p : Provider (StateM σ)) (v : Variant) (path : String) (s : σ)
    (noted : List String) :
    ∃ answer t,
      (loadFace p v path).run.run s = (answer, t) ∧
      ((loadFace p.logged v path).run.run noted).run s = ((answer, noted ++ [path]), t) ∧
      ((∃ font, Supplies p s v path font t ∧ answer = .ok (.trueType font)) ∨
        ∃ cause, Refuses p s v path cause t ∧ answer = .error cause) := by
  cases hload : (p.load path).run s with
  | mk given t =>
    refine ⟨outcomeOf v path given, t, ?_, ?_, ?_⟩
    · rw [run_loadFace, StateT.run_map, hload]
      rfl
    · rw [run_loadFace, StateT.run_map, StateT.run_map, run_load_logged, hload]
      rfl
    · cases given with
      | error source => exact .inr ⟨_, .missing hload, rfl⟩
      | ok data =>
        cases hread : TrueType.read v data with
        | error cause => exact .inr ⟨_, .unreadable hload hread, by rw [outcomeOf, hread]⟩
        | ok font => exact .inl ⟨font, ⟨data, hload, hread⟩, by rw [outcomeOf, hread]⟩

/-- A library with fonts for variants, each a face of its own. -/
def Library.withFonts (l : Library) (loaded : List (Variant × TrueType)) : Library :=
  loaded.foldl (fun l font => l.replace font.1 (.trueType font.2)) l

/-- Requests are made in order, each of them once, up to the first one that is refused. If
all of them are served, the fonts are put into the library. -/
theorem foldlM_put_asks (p : Provider (StateM σ)) (requests : List (Variant × String))
    (l : Library) (s : σ) (noted : List String) :
    ∃ answer asked t,
      (requests.foldlM (Library.put p) l).run.run s = (answer, t) ∧
      ((requests.foldlM (Library.put p.logged) l).run.run noted).run s =
        ((answer, noted ++ asked), t) ∧
      ((∃ loaded, Loads p s requests loaded t ∧ asked = requests.map (·.2) ∧
          answer = .ok (l.withFonts loaded)) ∨
        ∃ before v path after loaded u cause, requests = before ++ (v, path) :: after ∧
          Loads p s before loaded u ∧ Refuses p u v path cause t ∧
          asked = before.map (·.2) ++ [path] ∧ answer = .error cause) := by
  induction requests generalizing l s noted with
  | nil =>
    refine ⟨.ok l, [], s, rfl, ?_, .inl ⟨[], .nil s, rfl, rfl⟩⟩
    rw [List.append_nil]
    rfl
  | cons request requests ih =>
    obtain ⟨v, path⟩ := request
    obtain ⟨answer, t, hplain, hlogged, hanswer⟩ := loadFace_asks p v path s noted
    rw [List.foldlM_cons, List.foldlM_cons, Library.put, Library.put, bind_assoc, bind_assoc]
    rcases hanswer with ⟨font, hfont, rfl⟩ | ⟨cause, hrefused, rfl⟩
    · obtain ⟨answer, asked, u, hplain', hlogged', hanswer'⟩ :=
        ih (l.replace v (.trueType font)) t (noted ++ [path])
      rw [run_bind_of_ok hplain, run_run_bind_of_ok hlogged, pure_bind, pure_bind]
      refine ⟨answer, path :: asked, u, hplain', ?_, ?_⟩
      · rw [hlogged', List.append_assoc]
        rfl
      · rcases hanswer' with ⟨loaded, hloads, rfl, rfl⟩ |
          ⟨before, w, refused, after, loaded, last, cause, rfl, hloads, hrefused, rfl, rfl⟩
        · exact .inl ⟨(v, font) :: loaded, .cons hfont hloads, rfl, rfl⟩
        · exact .inr ⟨(v, path) :: before, w, refused, after, (v, font) :: loaded, last, cause,
            rfl, .cons hfont hloads, hrefused, rfl, rfl⟩
    · refine ⟨.error cause, [path], t, run_bind_of_error hplain _,
        run_run_bind_of_error hlogged _, ?_⟩
      exact .inr ⟨[], v, path, requests, [], s, cause, rfl, .nil s, hrefused, rfl, rfl⟩

/-! ## Libraries with loaded fonts -/

namespace Library

variable (l : Library) {v w a b : Variant}

/-- A new face is shared with no other variant. -/
theorem shares_replace (face : Face) :
    (l.replace v face).Shares a b ↔ a = v ∧ b = v ∨ a ≠ v ∧ b ≠ v ∧ l.Shares a b := by
  have hlt (w : Variant) : (l.slot w : Nat) ≠ l.faces.length := Nat.ne_of_lt (l.slot w).isLt
  by_cases ha : a = v <;> by_cases hb : b = v <;>
    simp [Shares, replace, ha, hb, hlt, (hlt _).symm, Fin.ext_iff]

/-- A variant with a loaded font shares its face with no other one, and the others share as
before. -/
theorem shares_withFonts (loaded : List (Variant × TrueType)) :
    (l.withFonts loaded).Shares a b ↔
      a = b ∨ a ∉ loaded.map (·.1) ∧ b ∉ loaded.map (·.1) ∧ l.Shares a b := by
  induction loaded generalizing l with
  | nil =>
    constructor
    · intro h
      exact .inr ⟨List.not_mem_nil, List.not_mem_nil, h⟩
    · rintro (rfl | ⟨-, -, h⟩)
      · rfl
      · exact h
  | cons font loaded ih =>
    have hstep : (l.withFonts (font :: loaded)).Shares a b ↔
        a = b ∨ a ∉ loaded.map (·.1) ∧ b ∉ loaded.map (·.1) ∧
          (a = font.1 ∧ b = font.1 ∨ a ≠ font.1 ∧ b ≠ font.1 ∧ l.Shares a b) := by
      rw [← shares_replace]
      exact ih (l.replace font.1 (.trueType font.2))
    rw [hstep, List.map_cons, List.mem_cons, List.mem_cons]
    grind

theorem face_withFonts_of_notMem {loaded : List (Variant × TrueType)}
    (h : v ∉ loaded.map (·.1)) : (l.withFonts loaded).face v = l.face v := by
  induction loaded generalizing l with
  | nil => rfl
  | cons font loaded ih =>
    obtain ⟨hne, hrest⟩ := not_or.mp (mt List.mem_cons.mpr h)
    exact (ih (l.replace font.1 (.trueType font.2)) hrest).trans (l.face_replace_of_ne _ hne)

/-- The face of a variant is the one font that was loaded for it. -/
theorem face_withFonts_of_mem {loaded : List (Variant × TrueType)} {font : TrueType}
    (h : (v, font) ∈ loaded) (hnodup : (loaded.map (·.1)).Nodup) :
    (l.withFonts loaded).face v = .trueType font := by
  induction loaded generalizing l with
  | nil => cases h
  | cons first loaded ih =>
    obtain ⟨hfirst, hrest⟩ := List.nodup_cons.mp hnodup
    cases h with
    | head =>
      exact ((l.replace v _).face_withFonts_of_notMem hfirst).trans (l.face_replace_self v _)
    | tail _ h => exact ih (l.replace first.1 (.trueType first.2)) h hrest

/-- A library in which every variant is drawn with the font that was loaded for its owner, and
in which variants share a face exactly if they have one owner. -/
structure IsMadeOf (l : Library) (sources : Sources) (loaded : List (Variant × TrueType)) :
    Prop where
  face : ∀ v, ∃ font, (sources.owner v, font) ∈ loaded ∧ l.face v = .trueType font
  shares : ∀ v w, l.Shares v w ↔ sources.owner v = sources.owner w

/-- The regular font is shared by the variants for which no other one was loaded. -/
theorem isMadeOf_withFonts {sources : Sources} {regular : TrueType}
    {rest : List (Variant × TrueType)}
    (h : ((Variant.normal, regular) :: rest).map (·.1) = sources.requests.map (·.1)) :
    ((shared (.trueType regular)).withFonts rest).IsMadeOf sources
      ((.normal, regular) :: rest) := by
  have hrest : rest.map (·.1) =
      [.bold, .italic, .boldItalic].filter fun v => (sources.path? v).isSome := by
    rw [← Sources.variants_filterMap]
    exact (List.cons.inj h).2
  have howner (v : Variant) : sources.owner v = if v ∈ rest.map (·.1) then v else .normal := by
    cases v <;> simp [hrest, Sources.owner]
  constructor
  · intro v
    rw [howner]
    by_cases hv : v ∈ rest.map (·.1)
    · obtain ⟨⟨w, font⟩, hfont, rfl⟩ := List.mem_map.mp hv
      have hnodup : (rest.map (·.1)).Nodup := by
        rw [hrest]
        exact List.Pairwise.filter _ (by decide)
      refine ⟨font, ?_, face_withFonts_of_mem _ hfont hnodup⟩
      rw [if_pos hv]
      exact List.mem_cons_of_mem _ hfont
    · refine ⟨regular, ?_, face_withFonts_of_notMem _ hv⟩
      rw [if_neg hv]
      exact List.mem_cons_self
  · intro v w
    have hshared : (shared (.trueType regular)).Shares v w := rfl
    have hnormal : Variant.normal ∉ rest.map (·.1) := by simp [hrest]
    rw [shares_withFonts, howner, howner]
    grind

/-- Loading makes the requests of the files, the regular one first. -/
theorem load_eq {m : Type → Type} [Monad m] [LawfulMonad m] (p : Provider m) (sources : Sources) :
    load p sources = loadFace p .normal sources.regular >>= fun regular =>
      ([.bold, .italic, .boldItalic].filterMap sources.request?).foldlM (put p)
        (shared regular) := by
  rw [load]
  exact bind_congr fun regular => foldlM_loadVariant p sources _ _

/-- What `foldlM_put_asks` says of requests holds of the files of a library. -/
theorem load_asks (p : Provider (StateM σ)) (sources : Sources) (s : σ) :
    ∃ result asked t,
      (load p sources).run.run s = (result, t) ∧
      ((load p.logged sources).run.run []).run s = ((result, asked), t) ∧
      ((∃ l loaded, result = .ok l ∧ Loads p s sources.requests loaded t ∧
          asked = sources.requests.map (·.2) ∧ l.IsMadeOf sources loaded) ∨
        ∃ before v path after loaded u cause, result = .error cause ∧
          sources.requests = before ++ (v, path) :: after ∧
          Loads p s before loaded u ∧ Refuses p u v path cause t ∧
          asked = before.map (·.2) ++ [path]) := by
  rw [load_eq, load_eq, Sources.requests_eq]
  obtain ⟨answer, t, hplain, hlogged, hanswer⟩ := loadFace_asks p .normal sources.regular s []
  rcases hanswer with ⟨regular, hregular, rfl⟩ | ⟨cause, hrefused, rfl⟩
  · rw [run_bind_of_ok hplain, run_run_bind_of_ok hlogged]
    obtain ⟨answer, asked, u, hplain', hlogged', hanswer'⟩ := foldlM_put_asks p
      ([.bold, .italic, .boldItalic].filterMap sources.request?) (shared (.trueType regular)) t
      [sources.regular]
    refine ⟨answer, sources.regular :: asked, u, hplain', hlogged', ?_⟩
    rcases hanswer' with ⟨rest, hrest, rfl, rfl⟩ |
      ⟨before, v, path, after, loaded, last, cause, hrequests, hbefore, hrefused, rfl, rfl⟩
    · have hloads : Loads p s sources.requests ((.normal, regular) :: rest) u :=
        .cons hregular hrest
      exact .inl ⟨_, _, rfl, hloads, rfl, isMadeOf_withFonts hloads.variants⟩
    · exact .inr ⟨(.normal, sources.regular) :: before, v, path, after,
        (.normal, regular) :: loaded, last, cause, rfl, congrArg _ hrequests,
        .cons hregular hbefore, hrefused, rfl⟩
  · refine ⟨.error cause, [sources.regular], t, run_bind_of_error hplain _,
      run_run_bind_of_error hlogged _, ?_⟩
    exact .inr ⟨[], .normal, sources.regular, _, [], s, cause, rfl, rfl, .nil s, hrefused, rfl⟩

/-- A library is loaded by asking for the files of its variants in order, as far as they are
served. If all are, each file was asked for once for every variant that names it, each of
these variants has a face of its own, read for it, and the others use the regular face.
Otherwise nothing is asked for behind the first refused request, whose error is the answer. -/
theorem load_asks_in_order (p : Provider (StateM σ)) (sources : Sources) (s : σ) :
    ∃ result asked t,
      (load p sources).run.run s = (result, t) ∧
      ((load p.logged sources).run.run []).run s = ((result, asked), t) ∧
      ((∃ l, result = .ok l) ↔ ∃ loaded u, Loads p s sources.requests loaded u) ∧
      ((∃ l loaded, result = .ok l ∧ Loads p s sources.requests loaded t ∧
          asked = sources.requests.map (·.2) ∧ l.IsMadeOf sources loaded) ∨
        ∃ before v path after loaded u cause, result = .error cause ∧
          sources.requests = before ++ (v, path) :: after ∧
          Loads p s before loaded u ∧ Refuses p u v path cause t ∧
          asked = before.map (·.2) ++ [path]) := by
  obtain ⟨result, asked, t, hplain, hlogged, hresult⟩ := load_asks p sources s
  refine ⟨result, asked, t, hplain, hlogged, ?_, hresult⟩
  rcases hresult with ⟨l, loaded, rfl, hloads, -⟩ |
    ⟨before, v, path, after, loaded, u, cause, rfl, hrequests, hbefore, hrefused, -⟩
  · exact ⟨fun _ => ⟨loaded, t, hloads⟩, fun _ => ⟨l, rfl⟩⟩
  · have hnone : ¬ ∃ loaded u, Loads p s sources.requests loaded u := by
      rintro ⟨loaded', u', hloads⟩
      rw [hrequests] at hloads
      exact hbefore.not_refuses hrefused hloads
    exact ⟨fun ⟨_, hok⟩ => (nomatch hok), fun h => (hnone h).elim⟩

/-- Behind a missing regular face the bold one is not asked for. -/
example : ((load ((Shelf.mk []).provider : Provider Id).logged
    ⟨"R.ttf", some "B.ttf", none, none⟩).run.run []).run.2 = ["R.ttf"] := by
  decide

end Library

end TaggedPage.Font
