import QuorumGate.Proofs.Deploying.Landings
import QuorumGate.Proofs.Json.CanonicalPayload
import QuorumGate.Proofs.Text.PercentEscapes
import QuorumGate.Proofs.Transport.UrlParts
import QuorumGate.Service.Ledger

/-!
# Where a deployment goes

The id of a contract stands in the URL of its deployments as it is. It names itself there if and
only if it can be written, holds no mark that ends a segment or a path and no percent escape, and
does not stand for another place in the path.
-/

namespace QuorumGate

namespace Url

/-- The segments of a path, of which the first stands before the first slash. -/
def segments (path : List Glyph) : List (List Glyph) := path.splitOn (.char '/')

/-- Whether a segment stands for another place in the path. -/
def isDots (segment : List Glyph) : Bool :=
  segment = [.char '.'] ∨ segment = [.char '.', .char '.']

/-- What a segment names, with percent escapes undone. -/
def named? (segment : List Glyph) : Option Text :=
  if isDots segment then none
  else (Text.charsOf? segment).map fun cs => Text.ofString (Surface.unescape cs)

/-- What a server is told by a URL. The fragment is not sent. -/
structure Endpoint where
  scheme : List Glyph
  userInfo : List Glyph
  host : List Glyph
  port : List Glyph
  names : List (Option Text)
  query : List Glyph
  deriving DecidableEq

def endpoint (url : Text) : Endpoint :=
  let p := Parts.of url.glyphs
  ⟨p.scheme, p.userInfo, p.host, p.port, (segments p.path).map named?, p.query⟩

/-- A URL leads to the deployments of a contract, and to nothing else, behind a base. -/
structure Addresses (base url id : Text) : Prop where
  scheme : (Parts.of url.glyphs).scheme = (Parts.of base.glyphs).scheme
  userInfo : (Parts.of url.glyphs).userInfo = (Parts.of base.glyphs).userInfo
  host : (Parts.of url.glyphs).host = (Parts.of base.glyphs).host
  port : (Parts.of url.glyphs).port = (Parts.of base.glyphs).port
  path : ∃ c, segments (Parts.of url.glyphs).path = segments (Parts.of base.glyphs).path ++
    [("api" : Text).glyphs, ("contracts" : Text).glyphs, c, ("deployments" : Text).glyphs] ∧
      named? c = some id
  query : (Parts.of url.glyphs).query = []
  fragment : (Parts.of url.glyphs).fragment = []

/-- The URL of the deployments of a contract. -/
def deployments (base id : Text) : Text := base ++ "/api/contracts/" ++ id ++ "/deployments"

end Url

/-- Whether a text names itself as a segment of a path. -/
def Text.isVerbatim (t : Text) : Bool :=
  !Url.isDots t.glyphs && t.glyphs.all (fun g => !Url.isOneOf ['/', '?', '#'] g) &&
    t.chars?.any fun cs => !Surface.hasEscape cs

namespace Url

variable {base id : Text} {s t : List Glyph} {c : Char}

theorem segments_append_slash (s t : List Glyph) :
    segments (s ++ .char '/' :: t) = segments s ++ segments t :=
  List.splitOnP_append_cons s t (beq_self_eq_true _)

theorem segments_eq_singleton_iff : segments s = [t] ↔ s = t ∧ .char '/' ∉ s := by
  constructor
  · intro h
    have joined : [Glyph.char '/'].intercalate (segments s) = s := List.intercalate_splitOn _
    rw [h] at joined
    refine ⟨by simpa using joined.symm, fun slash => ?_⟩
    obtain ⟨front, rest, rfl⟩ := List.append_of_mem slash
    rw [segments_append_slash] at h
    have parts := congrArg List.length h
    have some_front := List.length_pos_iff.2 (List.splitOn_ne_nil (Glyph.char '/') front)
    have some_rest := List.length_pos_iff.2 (List.splitOn_ne_nil (Glyph.char '/') rest)
    simp only [segments, List.length_append, List.length_singleton] at parts
    omega
  · rintro ⟨rfl, plain⟩
    refine List.splitOnP_eq_singleton fun g hg => ?_
    have other : g ≠ .char '/' := by
      rintro rfl
      exact plain hg
    simpa using other

theorem ofString_eq_ofList_iff {s : String} {cs : List Char} :
    Text.ofString s = Text.ofList cs ↔ s = String.ofList cs := by
  constructor
  · intro h
    have glyphs : s.toList.map Glyph.char = cs.map Glyph.char := congrArg Text.glyphs h
    have same := (List.map_inj_right fun _ _ => Glyph.char.inj).1 glyphs
    rw [← same, String.ofList_toList]
  · rintro rfl
    rw [Text.ofString, String.toList_ofList]

theorem named?_eq_self_iff : named? id.glyphs = some id ↔
    isDots id.glyphs = false ∧ id.chars?.any (fun cs => !Surface.hasEscape cs) = true := by
  cases dots : isDots id.glyphs with
  | true => simp [named?, dots]
  | false =>
    cases chars : id.chars? with
    | none =>
      have unwritable : Text.charsOf? id.glyphs = none := chars
      simp [named?, dots, unwritable]
    | some cs =>
      obtain ⟨cs', rfl⟩ := Text.exists_ofList (t := id) (by simp [Text.isWhole, chars])
      have written : Text.charsOf? (Text.ofList cs').glyphs = some cs' := Text.chars?_ofList cs'
      obtain rfl : cs = cs' := Option.some.inj (chars.symm.trans written)
      simp [named?, dots, written, ofString_eq_ofList_iff, Surface.unescape_eq_iff]

/-- Without anything behind a mark, and with something else at the end, there is no such mark. -/
theorem plain_of_splitFirst (nothing : (splitFirst c s).2 = [])
    (last : s.getLast? ≠ some (.char c)) : ∀ g ∈ s, g ≠ .char c := by
  simp only [splitFirst, List.span_eq_takeWhile_dropWhile] at nothing
  have whole := List.takeWhile_append_dropWhile (p := (· != Glyph.char c)) (l := s)
  have front : ∀ g ∈ s.takeWhile (· != Glyph.char c), g ≠ .char c := by
    intro g hg
    have passed := List.all_eq_true.1 List.all_takeWhile g hg
    simpa using passed
  cases behind : s.dropWhile (· != Glyph.char c) with
  | nil =>
    rw [behind, List.append_nil] at whole
    rwa [whole] at front
  | cons g rest =>
    rw [behind, List.drop_one, List.tail_cons] at nothing
    subst nothing
    have mark := List.head?_dropWhile_not (· != Glyph.char c) s
    rw [behind] at mark whole
    have is_mark : g = .char c := by simpa using mark
    rw [← whole, is_mark, List.getLast?_append] at last
    exact absurd rfl last

/-! ## The URL of the deployments of a contract -/

/-- What stands behind the base and a slash. -/
def behind (id : Text) : List Glyph :=
  ("api" : Text).glyphs ++ .char '/' :: (("contracts" : Text).glyphs ++ .char '/' ::
    (id.glyphs ++ .char '/' :: ("deployments" : Text).glyphs))

theorem glyphs_deployments (base id : Text) :
    (deployments base id).glyphs = base.glyphs ++ .char '/' :: behind id := by
  simp [deployments, behind, Text.ofString, Text.ofList]

/-- Neither mark is in what is appended if and only if neither is in the id. -/
theorem mem_behind_iff (mark : Glyph) (other : mark = .char '?' ∨ mark = .char '#') :
    mark ∈ .char '/' :: behind id ↔ mark ∈ id.glyphs := by
  rcases other with rfl | rfl <;> simp [behind, Text.ofString, Text.ofList]

theorem getLast?_behind (id : Text) :
    (Glyph.char '/' :: behind id).getLast? = some (.char 's') := by
  simp [behind, Text.ofString, Text.ofList, List.getLast?_append, List.getLast?_cons]

/-- The segments of the path, if all that is appended belongs to it. -/
theorem segments_behind (front : List Glyph) (id : Text) :
    segments (front ++ .char '/' :: behind id) = segments front ++
      ("api" : Text).glyphs :: ("contracts" : Text).glyphs :: segments id.glyphs ++
        [("deployments" : Text).glyphs] := by
  have api : segments ("api" : Text).glyphs = [("api" : Text).glyphs] := by decide
  have contracts : segments ("contracts" : Text).glyphs = [("contracts" : Text).glyphs] := by
    decide
  have deployments : segments ("deployments" : Text).glyphs = [("deployments" : Text).glyphs] := by
    decide
  simp only [behind, segments_append_slash, api, contracts, deployments]
  simp

theorem plain_iff {g : Glyph} : (!isOneOf ['/', '?', '#'] g) = true ↔
    g ≠ .char '/' ∧ g ≠ .char '?' ∧ g ≠ .char '#' := by
  cases g <;> simp [isOneOf, Glyph.isIn]

theorem isVerbatim_iff : id.isVerbatim = true ↔
    (∀ g ∈ id.glyphs, g ≠ .char '/' ∧ g ≠ .char '?' ∧ g ≠ .char '#') ∧
      named? id.glyphs = some id := by
  rw [named?_eq_self_iff, Text.isVerbatim, Bool.and_eq_true, Bool.and_eq_true, List.all_eq_true]
  simp only [plain_iff]
  rw [Bool.not_eq_true']
  tauto

theorem of_deployments (bare : IsBare base.glyphs)
    (last : base.glyphs.getLast? ≠ some (.char '/')) (id : Text) :
    Parts.of (deployments base id).glyphs = { Parts.of base.glyphs with
      path := (Parts.of base.glyphs).path ++
        (splitFirst '?' (splitFirst '#' (.char '/' :: behind id)).1).1
      query := (splitFirst '?' (splitFirst '#' (.char '/' :: behind id)).1).2
      fragment := (splitFirst '#' (.char '/' :: behind id)).2 } := by
  rw [glyphs_deployments]
  exact Parts.of_append bare last (by simp [behind, Text.ofString, Text.ofList])

/-- Without marks in the id, all that is appended belongs to the path. -/
theorem of_deployments_plain (bare : IsBare base.glyphs)
    (last : base.glyphs.getLast? ≠ some (.char '/'))
    (plain : ∀ g ∈ id.glyphs, g ≠ .char '?' ∧ g ≠ .char '#') :
    Parts.of (deployments base id).glyphs = { Parts.of base.glyphs with
      path := (Parts.of base.glyphs).path ++ .char '/' :: behind id
      query := []
      fragment := [] } := by
  have query : ∀ g ∈ Glyph.char '/' :: behind id, g ≠ .char '?' := by
    rintro _ hg rfl
    exact (plain _ ((mem_behind_iff _ (.inl rfl)).1 hg)).1 rfl
  have fragment : ∀ g ∈ Glyph.char '/' :: behind id, g ≠ .char '#' := by
    rintro _ hg rfl
    exact (plain _ ((mem_behind_iff _ (.inr rfl)).1 hg)).2 rfl
  rw [of_deployments bare last, splitFirst_self fragment]
  dsimp only
  rw [splitFirst_self query]

theorem Addresses.plain (h : Addresses base (deployments base id) id) (bare : IsBare base.glyphs)
    (last : base.glyphs.getLast? ≠ some (.char '/')) :
    ∀ g ∈ id.glyphs, g ≠ .char '?' ∧ g ≠ .char '#' := by
  have parts := of_deployments bare last id
  have fragment := h.fragment
  have query := h.query
  rw [parts] at fragment query
  dsimp only at fragment query
  have no_fragment := plain_of_splitFirst fragment (by simp [getLast?_behind])
  rw [splitFirst_self no_fragment] at query
  have no_query := plain_of_splitFirst query (by simp [getLast?_behind])
  intro g hg
  constructor
  · rintro rfl
    exact no_query _ ((mem_behind_iff _ (.inl rfl)).2 hg) rfl
  · rintro rfl
    exact no_fragment _ ((mem_behind_iff _ (.inr rfl)).2 hg) rfl

/-- The URL of the deployments of a contract addresses it if and only if its id names itself. -/
theorem addresses_iff (bare : IsBare base.glyphs)
    (last : base.glyphs.getLast? ≠ some (.char '/')) :
    Addresses base (deployments base id) id ↔ id.isVerbatim = true := by
  rw [isVerbatim_iff]
  constructor
  · intro h
    have plain := h.plain bare last
    obtain ⟨c, path, named⟩ := h.path
    rw [of_deployments_plain bare last plain, segments_behind] at path
    have ends : segments id.glyphs ++ [("deployments" : Text).glyphs] =
        [c] ++ [("deployments" : Text).glyphs] := by simpa using path
    have single := List.append_cancel_right ends
    obtain ⟨rfl, whole⟩ := segments_eq_singleton_iff.1 single
    refine ⟨fun g hg => ⟨?_, plain g hg⟩, named⟩
    rintro rfl
    exact whole hg
  · rintro ⟨plain, named⟩
    have parts := of_deployments_plain bare last fun g hg => (plain g hg).2
    have single : segments id.glyphs = [id.glyphs] :=
      segments_eq_singleton_iff.2 ⟨rfl, fun slash => (plain _ slash).1 rfl⟩
    constructor
    case path =>
      refine ⟨id.glyphs, ?_, named⟩
      rw [parts, segments_behind, single]
      simp
    all_goals rw [parts]

/-- Two contracts that are both addressed are not told the same way. -/
theorem Addresses.eq_of_endpoint {url url' id' : Text} (h : Addresses base url id)
    (h' : Addresses base url' id') (same : endpoint url = endpoint url') : id = id' := by
  obtain ⟨c, path, named⟩ := h.path
  obtain ⟨c', path', named'⟩ := h'.path
  have names := congrArg Endpoint.names same
  simp only [endpoint, path, path', List.map_append, List.append_cancel_left_eq, List.map_cons,
    List.cons.injEq, true_and, and_true, named, named'] at names
  exact Option.some.inj names

end Url

theorem Text.dropSlashes_bare {t : Text} (bare : Url.IsBare t.glyphs) :
    Url.IsBare t.dropSlashes.glyphs := by
  intro g hg
  have kept := (List.dropWhile_sublist _).subset (List.mem_reverse.1 hg)
  exact bare g (List.mem_reverse.1 kept)

theorem Text.getLast?_dropSlashes (t : Text) :
    t.dropSlashes.glyphs.getLast? ≠ some (.char '/') := by
  intro slash
  have last := List.head?_dropWhile_not (· == Glyph.char '/') t.glyphs.reverse
  rw [dropSlashes, dropTrailing, List.getLast?_reverse] at slash
  rw [slash] at last
  simp at last

namespace Deployment

/-- A deployment is one request, to the base with the id of the contract behind it. Its URL
addresses that contract if and only if the id names itself, and contracts whose ids name themselves
are never addressed by the same URL. This is the request as it is handed over: a client refuses the
URLs in which `Url.fault?` finds a fault, such as one with a control character, and sends nothing
for them. -/
theorem deploy_addresses_iff (d : Deployment) (bare : Url.IsBare d.baseUrl.glyphs)
    (carrier : Outgoing → Arrival) (o : Order) :
    ∃ out, ((d.deploy o).interpret (carry carrier) []).2 = [out] ∧ out.method = "POST" ∧
      (Url.Addresses d.baseUrl.dropSlashes out.url o.contractId ↔
        o.contractId.isVerbatim = true) ∧
      ∀ o' out', ((d.deploy o').interpret (carry carrier) []).2 = [out'] →
        o.contractId.isVerbatim = true → o'.contractId.isVerbatim = true →
          Url.endpoint out.url = Url.endpoint out'.url → o.contractId = o'.contractId := by
  have addresses : ∀ o : Order, Url.Addresses d.baseUrl.dropSlashes (d.request o).url o.contractId ↔
      o.contractId.isVerbatim = true :=
    fun o => Url.addresses_iff (Text.dropSlashes_bare bare) (Text.getLast?_dropSlashes d.baseUrl)
  refine ⟨d.request o, ?_, rfl, addresses o, ?_⟩
  · rw [interpret_deploy]
    rfl
  · intro o' out' sent verbatim verbatim' same
    rw [interpret_deploy] at sent
    obtain rfl : d.request o' = out' := by simpa using sent
    exact ((addresses o).2 verbatim).eq_of_endpoint ((addresses o').2 verbatim') same

end Deployment

/-! ## Two contracts with one endpoint -/

namespace Spliced

def client : Deployment := ⟨"http://registry:3001/", .whole 30⟩

def draft (id : Text) : ProposalDraft :=
  ⟨"P", "token", id, ⟨List.replicate 64 (.char 'a')⟩, .testnet, "dev", none⟩

def order (id : Text) : Order :=
  ⟨(draft id).normalized.contractId, (draft id).normalized.wasmHash, .testnet, "Q", "r"⟩

theorem client_bare : Url.IsBare client.baseUrl.glyphs := by decide

/-- Ids that name themselves, once the blanks around them are gone, are addressed, each by a URL of
its own. -/
theorem whole_ids_addressed :
    Url.IsBare client.baseUrl.glyphs ∧ (order " CABC ").contractId.isVerbatim = true ∧
      (order "CABD").contractId.isVerbatim = true ∧
      Url.Addresses client.baseUrl.dropSlashes
        "http://registry:3001/api/contracts/CABC/deployments" "CABC" ∧
      Url.endpoint (client.request (order " CABC ")).url ≠
        Url.endpoint (client.request (order "CABD")).url := by
  have verbatim : (order " CABC ").contractId.isVerbatim = true := by decide
  have verbatim' : (order "CABD").contractId.isVerbatim = true := by decide
  obtain ⟨out, sent, -, addresses, apart⟩ :=
    Deployment.deploy_addresses_iff client client_bare (fun _ => .silence) (order " CABC ")
  rw [Deployment.interpret_deploy] at sent
  obtain rfl : client.request (order " CABC ") = out := by simpa using sent
  refine ⟨client_bare, verbatim, verbatim', addresses.2 verbatim, fun same => ?_⟩
  have equal := apart (order "CABD") (client.request (order "CABD"))
    (by rw [Deployment.interpret_deploy]; rfl) verbatim verbatim' same
  exact absurd equal (by decide)

/-- Two proposals are accepted for two contracts, and the registry is told the same of both. -/
theorem spliced_ids_collide :
    (draft "CA").normalized.objection? = none ∧
      (draft "CA/deployments#x").normalized.objection? = none ∧
      (order "CA").contractId ≠ (order "CA/deployments#x").contractId ∧
      ¬Url.Addresses client.baseUrl.dropSlashes (client.request (order "CA/deployments#x")).url
        (order "CA/deployments#x").contractId ∧
      Url.endpoint (client.request (order "CA")).url =
        Url.endpoint (client.request (order "CA/deployments#x")).url := by
  refine ⟨by decide +kernel, by decide +kernel, by decide, fun addresses => ?_, by decide +kernel⟩
  have verbatim : (order "CA/deployments#x").contractId.isVerbatim = true :=
    (Url.addresses_iff (Text.dropSlashes_bare client_bare)
      (Text.getLast?_dropSlashes client.baseUrl)).1 addresses
  exact absurd verbatim (by decide)

end Spliced

end QuorumGate
