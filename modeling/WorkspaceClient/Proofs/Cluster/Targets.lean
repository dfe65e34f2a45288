import Mathlib.Data.List.TakeWhile
import WorkspaceClient.Cluster.Client
import WorkspaceClient.Proofs.Result
import WorkspaceClient.Proofs.Text.Pieces
import WorkspaceClient.Proofs.Url.Percent

/-
  This file shows where the request for the workspaces of a
  user leads. The name of the user is put into the path as it
  is. So the request leads to the namespace of the user if
  nothing in the name ends a segment or a path and no byte is
  encoded in it, and otherwise it does not.

  Key definitions include:
    * `Cluster.pathOf`
    * `Cluster.LeadsTo`
    * `Cluster.reach`
    * `Cluster.IsSingle`
    * `Cluster.Client.base`
    * `Cluster.AsksFor`

  Main declarations:
    * `Cluster.pathOf_target?`
    * `Cluster.leadsTo_iff`
    * `Cluster.leadsTo_own_iff`
    * `Cluster.Client.notMem_base`
    * `Cluster.Client.asksFor_of_request?`
-/

namespace WorkspaceClient
namespace Cluster

------------------------------------------------------------
-- Paths
------------------------------------------------------------

/- The path of a target ends before its first question mark. -/
def pathOf
    (target : String) : List Char :=
  target.toList.takeWhile (· != '?')

/- The path of all namespaces. -/
def namespacesPath : String :=
  groupPath ++ "/namespaces/"

/- The list of workspaces in a namespace. -/
def workspacesName : List Char :=
  "workspaces".toList

/-
  Below a path, a target leads to the workspaces of a
  namespace: the name of the namespace is one segment, with
  some of its bytes percent-encoded or with none.
-/
def LeadsTo
    (base : List Char)
    (space target : String) : Prop :=
  ∃ segment,
    Text.splitOn ['/'] (pathOf target) =
        Text.splitOn ['/'] base
          ++ ["apis", "burrow.dev", "v1alpha1",
            "namespaces"].map String.toList
          ++ [segment, workspacesName] ∧
      Url.decode segment = some space.toList

/- A target leads to one namespace only. -/
theorem LeadsTo.unique
    {base : List Char}
    {space space' target : String}
    (h : LeadsTo base space target)
    (h' : LeadsTo base space' target) :
    space = space' := by
  rcases h with ⟨segment, hPath, hSpace⟩
  rcases h' with ⟨segment', hPath', hSpace'⟩
  rw [hPath] at hPath'
  have hSame :=
    (List.cons.inj (List.append_cancel_left hPath')).1
  rw [hSame, hSpace', Option.some_inj] at hSpace
  exact (String.toList_inj.mp hSpace).symm

------------------------------------------------------------
-- Targets
------------------------------------------------------------

/- Whether a character does not end the path of a target. -/
def isKept
    (c : Char) : Bool :=
  c != '?' && c != '#'

theorem forall_isKept_iff
    {cs : List Char} :
    (∀ c ∈ cs, isKept c = true) ↔ '?' ∉ cs ∧ '#' ∉ cs := by
  simp only [isKept, Bool.and_eq_true, bne_iff_ne,
    forall_and, ne_eq, List.forall_mem_ne']

section

variable {cs path : List Char}
variable {query : Option (List Char)}

theorem path_of_splitTarget?
    (h : splitTarget? cs = some (path, query)) :
    path = cs.takeWhile isKept := by
  unfold splitTarget? at h
  dsimp only at h
  split at h
  · cases h
    rw [Text.splitAtFirst_fst, List.takeWhile_takeWhile]
    refine congrArg (List.takeWhile · cs) (funext fun c => ?_)
    rw [Bool.decide_and, Bool.decide_eq_true,
      Bool.decide_eq_true]
    rfl
  · cases h

theorem notMem_of_splitTarget?
    (h : splitTarget? cs = some (path, query)) :
    '?' ∉ path := by
  rw [path_of_splitTarget? h]
  intro hMem
  exact absurd (List.mem_takeWhile_imp hMem) (by decide)

/- A path is cut off from what stands behind it. -/
theorem takeWhile_path
    (hNone : '?' ∉ path)
    (query : Option (List Char)) :
    (path ++ queryText query).takeWhile (· != '?') = path := by
  have hPath : ∀ c ∈ path, (c != '?') = true := by
    intro c hc
    rw [bne_iff_ne]
    rintro rfl
    exact hNone hc
  rw [List.takeWhile_append_of_pos hPath]
  cases query with
  | none => exact List.append_nil path
  | some query => exact List.append_nil path

/- The path of a target that a text names. -/
theorem pathOf_target?
    {s target : String}
    (h : target? s = some target) :
    pathOf target = s.toList.takeWhile isKept := by
  unfold target? at h
  rcases Option.bind_eq_some_iff.mp h with
    ⟨⟨path, query⟩, hSplit, hTarget⟩
  cases hTarget
  rw [pathOf, String.toList_ofList,
    takeWhile_path (notMem_of_splitTarget? hSplit) query,
    path_of_splitTarget? hSplit]

end

------------------------------------------------------------
-- Workspaces of a user
------------------------------------------------------------

/-
  What the path of the request for the workspaces of a user
  has behind the path of all namespaces.
-/
def reach
    (user : String) : List Char :=
  (userNamespace user ++ "/workspaces?").toList.takeWhile isKept

/- Nothing in a name ends a segment or a path, or is encoded. -/
structure IsSingle
    (user : String) : Prop where
  slash : '/' ∉ user.toList
  question : '?' ∉ user.toList
  numberSign : '#' ∉ user.toList
  unescaped : Url.isEscaped user.toList = false

theorem isSingle_iff
    {user : String} :
    IsSingle user ↔
      '/' ∉ user.toList ∧ '?' ∉ user.toList ∧
        '#' ∉ user.toList ∧
        Url.isEscaped user.toList = false :=
  ⟨fun h => ⟨h.slash, h.question, h.numberSign, h.unescaped⟩,
    fun ⟨hSlash, hQuestion, hNumberSign, hUnescaped⟩ =>
      ⟨hSlash, hQuestion, hNumberSign, hUnescaped⟩⟩

theorem IsSingle.kept
    {user : String}
    (h : IsSingle user) :
    ∀ c ∈ user.toList, isKept c = true :=
  forall_isKept_iff.mpr ⟨h.question, h.numberSign⟩

instance
    (user : String) :
    Decidable (IsSingle user) :=
  decidable_of_iff _ isSingle_iff.symm

/- Each user has a namespace of their own. -/
theorem userNamespace_inj
    {user other : String} :
    userNamespace user = userNamespace other ↔
      user = other := by
  rw [userNamespace, userNamespace, String.append_right_inj]

section

variable {user target : String}
variable {base : List Char}

/- The target of the request for the workspaces of a user. -/
theorem pathOf_workspacesPath
    (h : target? (workspacesPath user) = some target) :
    pathOf target = namespacesPath.toList ++ reach user := by
  have hFront : ∀ c ∈ namespacesPath.toList, isKept c = true :=
    List.all_eq_true.mp (by decide)
  have hParts :
      workspacesPath user =
        namespacesPath
          ++ (userNamespace user ++ "/workspaces?") := by
    simp only [workspacesPath, namespacesPath,
      String.append_assoc]
  rw [pathOf_target? h, hParts, String.toList_append,
    List.takeWhile_append_of_pos hFront]
  rfl

/- The segments of the path of all namespaces. -/
theorem splitOn_namespacesPath
    (base rest : List Char) :
    Text.splitOn ['/']
        (base ++ (namespacesPath.toList ++ rest)) =
      Text.splitOn ['/'] base
        ++ ["apis", "burrow.dev", "v1alpha1",
          "namespaces"].map String.toList
        ++ Text.splitOn ['/'] rest := by
  have hParts :
      namespacesPath.toList ++ rest =
        '/' :: ("apis".toList
          ++ '/' :: ("burrow.dev".toList
            ++ '/' :: ("v1alpha1".toList
              ++ '/' :: ("namespaces".toList
                ++ '/' :: rest)))) := rfl
  have hSingle :
      ∀ name ∈ ["apis", "burrow.dev", "v1alpha1", "namespaces"],
        Text.splitOn ['/'] name.toList = [name.toList] := by
    decide
  rw [hParts, Text.splitOn_append_cons, Text.splitOn_append_cons,
    Text.splitOn_append_cons, Text.splitOn_append_cons,
    Text.splitOn_append_cons, hSingle "apis" (by decide),
    hSingle "burrow.dev" (by decide),
    hSingle "v1alpha1" (by decide),
    hSingle "namespaces" (by decide), List.append_assoc]
  rfl

/- Which namespaces a request for workspaces leads to. -/
theorem leadsTo_iff
    {space : String}
    (hPath :
      pathOf target =
        base ++ (namespacesPath.toList ++ reach user)) :
    LeadsTo base space target ↔
      ∃ segment,
        '/' ∉ segment ∧
          reach user = segment ++ '/' :: workspacesName ∧
          Url.decode segment = some space.toList := by
  have hName : '/' ∉ workspacesName := by decide
  unfold LeadsTo
  refine exists_congr fun segment => ?_
  have hPair :
      Text.splitOn ['/'] (reach user) =
          [segment, workspacesName] ↔
        '/' ∉ segment ∧
          reach user = segment ++ '/' :: workspacesName := by
    rw [Text.splitOn_eq_iff]
    simp [hName, List.intercalate]
  rw [hPath, splitOn_namespacesPath, List.append_cancel_left_eq,
    hPair, and_assoc]

theorem kept_userNamespace_iff :
    (∀ c ∈ (userNamespace user).toList, isKept c = true) ↔
      ∀ c ∈ user.toList, isKept c = true := by
  have hStart :
      ∀ c ∈ "burrow-user-".toList, isKept c = true :=
    List.all_eq_true.mp (by decide)
  rw [userNamespace, String.toList_append,
    List.forall_mem_append, and_iff_right hStart]

/- A name that ends no path stands in the path as it is. -/
theorem reach_of_kept
    (hKept : ∀ c ∈ user.toList, isKept c = true) :
    reach user =
      (userNamespace user).toList ++ '/' :: workspacesName := by
  have hEnd :
      "/workspaces?".toList.takeWhile isKept =
        '/' :: workspacesName := by
    decide
  rw [reach, String.toList_append,
    List.takeWhile_append_of_pos
      (kept_userNamespace_iff.mpr hKept),
    hEnd]

/- Any other name is cut off in the path. -/
theorem exists_of_not_kept
    (hCut : ¬ ∀ c ∈ user.toList, isKept c = true) :
    ∃ mark rest,
      (userNamespace user).toList = reach user ++ mark :: rest := by
  rw [← kept_userNamespace_iff] at hCut
  have hReach :
      reach user =
        (userNamespace user).toList.takeWhile isKept := by
    rw [reach, String.toList_append, List.takeWhile_append,
      if_neg]
    intro hLength
    have hWhole :=
      (List.takeWhile_prefix isKept).eq_of_length hLength
    exact hCut (List.takeWhile_eq_self_iff.mp hWhole)
  have hRest :
      (userNamespace user).toList.dropWhile isKept ≠ [] := by
    rwa [Ne, List.dropWhile_eq_nil_iff]
  rcases List.exists_cons_of_ne_nil hRest with
    ⟨mark, rest, hDropped⟩
  refine ⟨mark, rest, ?_⟩
  rw [hReach, ← hDropped, List.takeWhile_append_dropWhile]

theorem unescaped_userNamespace :
    Url.decode (userNamespace user).toList =
        some (userNamespace user).toList ↔
      Url.isEscaped user.toList = false := by
  rw [userNamespace, String.toList_append,
    Url.decode_append_iff (by decide), Url.decode_eq_self_iff]

/-
  The request for the workspaces of a user leads to the
  namespace of the user exactly for a single name.
-/
theorem leadsTo_own_iff
    (hPath :
      pathOf target =
        base ++ (namespacesPath.toList ++ reach user)) :
    LeadsTo base (userNamespace user) target ↔
      IsSingle user := by
  rw [leadsTo_iff hPath]
  by_cases hKept : ∀ c ∈ user.toList, isKept c = true
  · rcases forall_isKept_iff.mp hKept with
      ⟨hQuestion, hNumberSign⟩
    have hSlash :
        '/' ∉ (userNamespace user).toList ↔
          '/' ∉ user.toList := by
      simp [userNamespace]
    rw [reach_of_kept hKept, isSingle_iff, ← hSlash,
      ← unescaped_userNamespace]
    constructor
    · rintro ⟨segment, hSegment, hSame, hDecode⟩
      rw [List.append_cancel_right_eq] at hSame
      subst hSame
      exact ⟨hSegment, hQuestion, hNumberSign, hDecode⟩
    · rintro ⟨hSegment, _, _, hDecode⟩
      exact ⟨_, hSegment, rfl, hDecode⟩
  · constructor
    · -- the segment is too short for the name
      rintro ⟨segment, _, hReach, hDecode⟩
      rcases exists_of_not_kept hKept with ⟨mark, rest, hName⟩
      have hLength := Url.length_ofChars_le_of_decode hDecode
      have hMark :=
        List.length_pos_iff.mpr
          (String.utf8EncodeChar_ne_nil (c := mark))
      rw [hName, hReach] at hLength
      simp only [Bytes.ofChars_append, Bytes.ofChars_cons,
        List.length_append] at hLength
      omega
    · exact fun hSingle => absurd hSingle.kept hKept

end

------------------------------------------------------------
-- Addresses
------------------------------------------------------------

theorem notMem_of_parse?
    {s : String}
    {a : Address}
    (h : Address.parse? s = some a) :
    '?' ∉ a.path := by
  unfold Address.parse? at h
  dsimp only at h
  split at h
  · cases h
  split at h
  · cases h
  split at h
  · cases h
  rcases Option.bind_eq_some_iff.mp h with
    ⟨⟨path, query⟩, hSplit, hAddress⟩
  cases hAddress
  exact notMem_of_splitTarget? hSplit

/- The address of an access was read from a text. -/
theorem exists_parse?_of_access
    {k : Kubeconfig}
    {fs : Files}
    {path : String}
    {context : Option String}
    {a : Kubeconfig.Access}
    (h : k.access fs path context = .ok a) :
    ∃ url, Address.parse? url = some a.address := by
  unfold Kubeconfig.access at h
  dsimp only at h
  -- without a context, a cluster and a URL there is no access
  iterate 4
    split at h
    case h_2 => cases h
  split at h
  · next address hAddress =>
      rcases Result.ok_of_bind h with ⟨roots, _, h⟩
      cases h
      exact ⟨_, hAddress⟩
  · cases h

namespace Client

/- The path of the server, below which all requests lead. -/
def base
    (c : Client) : List Char :=
  trimSlashes c.address.path

theorem mem_of_mem_trimSlashes
    {cs : List Char}
    {c : Char}
    (h : c ∈ trimSlashes cs) :
    c ∈ cs := by
  unfold trimSlashes at h
  rw [List.mem_reverse] at h
  exact
    List.mem_reverse.mp ((List.dropWhile_suffix _).subset h)

/- No path of a server has a question mark in it. -/
theorem notMem_base
    {fs : Files}
    {home path context : Option String}
    {c : Client}
    (h : resolve fs home path context = .ok c) :
    '?' ∉ c.base := by
  unfold resolve at h
  split at h
  · unfold ofKubeconfig at h
    rcases Result.ok_of_bind h with ⟨k, _, h⟩
    split at h
    · next a hAccess =>
        rcases exists_parse?_of_access hAccess with
          ⟨url, hUrl⟩
        unfold ofAccess at h
        split at h
        · cases h
          exact fun hMem =>
            notMem_of_parse? hUrl (mem_of_mem_trimSlashes hMem)
        · cases h
    · cases h
  · cases h

------------------------------------------------------------
-- Requests
------------------------------------------------------------

theorem exists_target_of_request?
    {c : Client}
    {path : String}
    {q : Http.Request}
    (h : c.request? path = some q) :
    ∃ target,
      target? path = some target ∧
        q.method = "GET" ∧
        q.origin = c.address.origin ∧
        q.target = c.address.resolve target := by
  unfold request? at h
  rcases Option.bind_eq_some_iff.mp h with
    ⟨target, hTarget, hRequest⟩
  cases hRequest
  exact ⟨target, hTarget, rfl, rfl, rfl⟩

theorem request?_eq_none_iff
    {c : Client}
    {path : String} :
    c.request? path = none ↔ target? path = none := by
  unfold request?
  cases target? path with
  | none => exact ⟨fun _ => rfl, fun _ => rfl⟩
  | some target => exact ⟨nofun, nofun⟩

/- The path of a server stands in front of the target. -/
theorem pathOf_resolve
    {c : Client}
    (hBase : '?' ∉ c.base)
    (target : String) :
    pathOf (c.address.resolve target) =
      c.base ++ pathOf target := by
  have hFront : ∀ d ∈ c.base, (d != '?') = true := by
    intro d hd
    rw [bne_iff_ne]
    rintro rfl
    exact hBase hd
  unfold pathOf Address.resolve
  rw [String.toList_append, String.toList_ofList]
  exact List.takeWhile_append_of_pos hFront

end Client

/-
  A name that goes on behind the list of another user reaches
  no further than this list.
-/
theorem reach_shared
    {user other : String}
    {mark : Char}
    {rest : List Char}
    (hSingle : IsSingle other)
    (hMark : mark = '?' ∨ mark = '#')
    (hUser :
      user.toList =
        other.toList ++ '/' :: workspacesName ++ mark :: rest) :
    reach user =
      (userNamespace other).toList ++ '/' :: workspacesName := by
  have hEnd : ¬ isKept mark = true := by
    rcases hMark with rfl | rfl <;> decide
  have hName : ∀ c ∈ '/' :: workspacesName, isKept c = true :=
    List.all_eq_true.mp (by decide)
  have hKept :=
    List.forall_mem_append.mpr
      ⟨kept_userNamespace_iff.mpr hSingle.kept, hName⟩
  have hParts :
      (userNamespace user ++ "/workspaces?").toList =
        ((userNamespace other).toList ++ '/' :: workspacesName)
          ++ mark :: (rest ++ "/workspaces?".toList) := by
    simp [userNamespace, hUser]
  rw [reach, hParts, List.takeWhile_append_of_pos hKept,
    List.takeWhile_cons_of_neg hEnd, List.append_nil]

/-
  A request asks a cluster for the workspaces of a user.
  Whether it leads to the namespace of the user, and of no
  other user, depends on the name: one that goes on behind
  the list of another user leads to the namespace of the
  other user.
-/
structure AsksFor
    (c : Client)
    (user : String)
    (q : Http.Request) : Prop where
  method : q.method = "GET"
  origin : q.origin = c.address.origin
  path :
    pathOf q.target =
      c.base ++ (namespacesPath.toList ++ reach user)
  own :
    LeadsTo c.base (userNamespace user) q.target ↔
      IsSingle user
  alone :
    IsSingle user →
      ∀ other,
        LeadsTo c.base (userNamespace other) q.target →
          other = user
  others :
    ∀ space,
      LeadsTo c.base space q.target ↔
        ∃ segment,
          '/' ∉ segment ∧
            reach user = segment ++ '/' :: workspacesName ∧
            Url.decode segment = some space.toList
  shared :
    ∀ other mark rest,
      IsSingle other →
      mark = '?' ∨ mark = '#' →
      user.toList =
          other.toList ++ '/' :: workspacesName
            ++ mark :: rest →
        LeadsTo c.base (userNamespace other) q.target

theorem Client.asksFor_of_request?
    {c : Client}
    {user : String}
    {q : Http.Request}
    (hBase : '?' ∉ c.base)
    (h : c.request? (workspacesPath user) = some q) :
    AsksFor c user q := by
  rcases exists_target_of_request? h with
    ⟨target, hTarget, hMethod, hOrigin, hResolved⟩
  have hPath :
      pathOf q.target =
        c.base ++ (namespacesPath.toList ++ reach user) := by
    rw [hResolved, pathOf_resolve hBase,
      pathOf_workspacesPath hTarget]
  refine
    { method := hMethod
      origin := hOrigin
      path := hPath
      own := leadsTo_own_iff hPath
      alone := ?_
      others := fun _ => leadsTo_iff hPath
      shared := ?_ }
  · intro hSingle other hOther
    have hOwn := (leadsTo_own_iff hPath).mpr hSingle
    exact userNamespace_inj.mp (hOther.unique hOwn)
  · intro other mark rest hSingle hMark hUser
    have hSlash : '/' ∉ (userNamespace other).toList := by
      simp [userNamespace, hSingle.slash]
    rw [leadsTo_iff hPath]
    exact
      ⟨_, hSlash, reach_shared hSingle hMark hUser,
        unescaped_userNamespace.mpr hSingle.unescaped⟩

end Cluster
end WorkspaceClient
