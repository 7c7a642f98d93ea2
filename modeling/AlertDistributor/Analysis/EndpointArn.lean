import AlertDistributor.Library.Segments
import AlertDistributor.Model.SnsModels

/-!
# The grammar of an endpoint ARN

The channel of an endpoint is read off its ARN by two splits: the last segment between
colons, and in it the second one between slashes.  Stated without the splits, an ARN ends
in a resource that holds no colon (`AfterLastColon`), and the resource names a kind
(`NamesKind`): something free of slashes, a slash, the kind, and nothing more or another
slash and anything.  The parser accepts exactly this grammar (`endpoint_arn_grammar`).
-/

set_option autoImplicit false

namespace AlertDistributor.Analysis

open AlertDistributor.Model Segments

/-- `r` is the part of `s` after its last colon, or the whole of `s` if it has none. -/
def AfterLastColon (s r : String) : Prop :=
  ':' ∉ r.toList ∧ (s = r ∨ ∃ front, s = front ++ ":" ++ r)

/-- `r` is `a/K` or `a/K/rest`, where `a` holds no slash. -/
def NamesKind (r K : String) : Prop :=
  ∃ a : String, '/' ∉ a.toList ∧
    (r = a ++ "/" ++ K ∨ ∃ rest, r = a ++ "/" ++ K ++ "/" ++ rest)

/-- The kind that stands for a known channel. -/
def kind? : EndpointChannel → Option String
  | .gcm => some "GCM"
  | .apns => some "APNS"
  | .apnsSandbox => some "APNS_SANDBOX"
  | .unknown => none

/-- The platforms that take an endpoint of kind `K`. -/
def TakesKind (platform K : String) : Prop :=
  toAsciiLowercase platform = "ios".toList ∨
    (toAsciiLowercase platform = "android".toList ∧ K = "GCM")

/-! ## From lists of characters to strings -/

/-- What follows the last colon is the last part between colons. -/
theorem afterLastColon_iff (s r : String) :
    AfterLastColon s r ↔ (s.toList.splitOn ':').getLast? = some r.toList := by
  rw [getLast?_splitOn_eq_some_iff, AfterLastColon]
  refine and_congr_right fun _ => or_congr String.toList_inj.symm ?_
  constructor
  · rintro ⟨front, rfl⟩
    exact ⟨front.toList, by simp⟩
  · rintro ⟨front, hs⟩
    refine ⟨String.ofList front, String.toList_inj.mp ?_⟩
    rw [hs]
    simp

/-- The kind is the second part between slashes. -/
theorem namesKind_iff (r K : String) (hK : '/' ∉ K.toList) :
    NamesKind r K ↔ (r.toList.splitOn '/')[1]? = some K.toList := by
  rw [getElem?_one_splitOn_eq_some_iff, NamesKind]
  constructor
  · rintro ⟨a, ha, rfl | ⟨rest, rfl⟩⟩
    · exact ⟨hK, a.toList, ha, Or.inl (by simp)⟩
    · exact ⟨hK, a.toList, ha, Or.inr ⟨rest.toList, by simp⟩⟩
  · rintro ⟨-, front, hfront, hr | ⟨rest, hr⟩⟩
    · refine ⟨String.ofList front, by simpa using hfront, Or.inl (String.toList_inj.mp ?_)⟩
      rw [hr]
      simp
    · refine ⟨String.ofList front, by simpa using hfront,
        Or.inr ⟨String.ofList rest, String.toList_inj.mp ?_⟩⟩
      rw [hr]
      simp

/-- Every string has exactly one such part. -/
theorem existsUnique_afterLastColon (s : String) : ∃! r, AfterLastColon s r := by
  have hne : s.toList.splitOn ':' ≠ [] := List.splitOn_ne_nil ':' s.toList
  obtain ⟨resource, hresource⟩ := Option.ne_none_iff_exists'.mp
    fun hnone => hne (List.getLast?_eq_none_iff.mp hnone)
  refine ⟨String.ofList resource, ?_, ?_⟩
  · show AfterLastColon s (String.ofList resource)
    rw [afterLastColon_iff, hresource, String.toList_ofList]
  · intro r hr
    rw [afterLastColon_iff, hresource, Option.some.injEq] at hr
    rw [hr, String.ofList_toList]

/-! ## The channel of an ARN -/

/-- A kind stands for one channel. -/
theorem kind?_inj {c c' : EndpointChannel} {K : String} (h : kind? c = some K)
    (h' : kind? c' = some K) : c = c' := by
  have heq : kind? c = kind? c' := h.trans h'.symm
  cases c <;> cases c' <;> first | rfl | simp [kind?] at heq h

/-- No kind holds a slash or a colon. -/
theorem kind_free {c : EndpointChannel} {K : String} (hc : kind? c = some K) :
    '/' ∉ K.toList ∧ ':' ∉ K.toList := by
  cases c with
  | gcm => obtain rfl : "GCM" = K := Option.some.inj hc; decide
  | apns => obtain rfl : "APNS" = K := Option.some.inj hc; decide
  | apnsSandbox => obtain rfl : "APNS_SANDBOX" = K := Option.some.inj hc; decide
  | unknown => cases hc

/-- The match on the kind gives a known channel for its own kind only. -/
theorem channel_eq_iff_kind {c : EndpointChannel} {K : String} (hc : kind? c = some K)
    (kind : List Char) :
    (if kind = "GCM".toList then EndpointChannel.gcm
      else if kind = "APNS".toList then .apns
      else if kind = "APNS_SANDBOX".toList then .apnsSandbox
      else .unknown) = c ↔ kind = K.toList := by
  have hgcm : "GCM".toList ≠ "APNS".toList ∧ "GCM".toList ≠ "APNS_SANDBOX".toList := by decide
  have hapns : "APNS".toList ≠ "APNS_SANDBOX".toList := by decide
  cases c with
  | gcm =>
    obtain rfl : "GCM" = K := Option.some.inj hc
    split_ifs <;> simp_all
  | apns =>
    obtain rfl : "APNS" = K := Option.some.inj hc
    split_ifs <;> simp_all
  | apnsSandbox =>
    obtain rfl : "APNS_SANDBOX" = K := Option.some.inj hc
    split_ifs <;> simp_all
  | unknown => cases hc

/-- A known channel is read exactly from a resource that names its kind. -/
theorem endpointChannel_eq_iff {d : UserDevice} {r : String}
    (hr : AfterLastColon d.endpointArn r) {c : EndpointChannel} {K : String}
    (hc : kind? c = some K) : d.endpointChannel = c ↔ NamesKind r K := by
  rw [namesKind_iff r K (kind_free hc).1]
  unfold UserDevice.endpointChannel
  rw [(afterLastColon_iff d.endpointArn r).mp hr]
  dsimp only
  cases (r.toList.splitOn '/')[1]? with
  | none =>
    have hne : EndpointChannel.unknown ≠ c := by
      rintro rfl
      cases hc
    simp [hne]
  | some kind =>
    rw [Option.some.injEq]
    exact channel_eq_iff_kind hc kind

/-- What the parser makes of an ARN whose last part is `r`. -/
structure ReadsGrammar (d : UserDevice) (r : String) : Prop where
  known : ∀ c K, kind? c = some K → (d.endpointChannel = c ↔ NamesKind r K)
  unknown : d.endpointChannel = .unknown ↔ ∀ c K, kind? c = some K → ¬ NamesKind r K

/-- The code reads the kind that the grammar names. -/
theorem readsGrammar {d : UserDevice} {r : String} (hr : AfterLastColon d.endpointArn r) :
    ReadsGrammar d r := by
  refine ⟨fun c K hc => endpointChannel_eq_iff hr hc, ?_⟩
  constructor
  · intro hunknown c K hc hnames
    have hchannel := (endpointChannel_eq_iff hr hc).mpr hnames
    rw [hunknown] at hchannel
    subst hchannel
    cases hc
  · intro hnone
    cases hchannel : d.endpointChannel with
    | unknown => rfl
    | gcm => exact absurd ((endpointChannel_eq_iff hr rfl).mp hchannel) (hnone .gcm _ rfl)
    | apns => exact absurd ((endpointChannel_eq_iff hr rfl).mp hchannel) (hnone .apns _ rfl)
    | apnsSandbox =>
      exact absurd ((endpointChannel_eq_iff hr rfl).mp hchannel) (hnone .apnsSandbox _ rfl)

/-! ## The ARNs that SNS hands out -/

/-- The ARN of an endpoint. -/
def snsEndpointArn (region account K app id : String) : String :=
  "arn:aws:sns:" ++ region ++ ":" ++ account ++ ":endpoint/" ++ K ++ "/" ++ app ++ "/" ++ id

/-- The ARN, cut behind its last colon. -/
theorem snsEndpointArn_eq (region account K app id : String) :
    snsEndpointArn region account K app id =
      "arn:aws:sns:" ++ region ++ ":" ++ account ++ ":" ++
        ("endpoint" ++ "/" ++ K ++ "/" ++ (app ++ "/" ++ id)) := by
  have hliteral : ":endpoint/" = ":" ++ ("endpoint" ++ "/") := rfl
  unfold snsEndpointArn
  simp only [hliteral, String.append_assoc]

/-- Its last part, if the application and the id hold no colon. -/
theorem afterLastColon_snsEndpointArn {c : EndpointChannel} {K : String} (hc : kind? c = some K)
    (region account : String) {app id : String} (happ : ':' ∉ app.toList)
    (hid : ':' ∉ id.toList) :
    AfterLastColon (snsEndpointArn region account K app id)
      ("endpoint" ++ "/" ++ K ++ "/" ++ (app ++ "/" ++ id)) := by
  refine ⟨?_, Or.inr ⟨_, snsEndpointArn_eq region account K app id⟩⟩
  have hliteral : ':' ∉ "endpoint".toList ∧ ':' ∉ "/".toList := by decide
  simp only [String.toList_append, List.mem_append, hliteral, (kind_free hc).2, happ, hid,
    or_self, not_false_eq_true]

/-- What follows it names the kind. -/
theorem namesKind_endpoint (K rest : String) :
    NamesKind ("endpoint" ++ "/" ++ K ++ "/" ++ rest) K :=
  ⟨"endpoint", by decide, Or.inr ⟨rest, rfl⟩⟩

/-- A device with a known channel is pushed to on the platforms that take its kind. -/
theorem endpointIsSupportedForPlatform_iff {d : UserDevice} {K : String}
    (hc : kind? d.endpointChannel = some K) :
    d.endpointIsSupportedForPlatform = true ↔ TakesKind d.platform K := by
  have hplatform : "android".toList ≠ "ios".toList := by decide
  have hgcm : d.endpointChannel = .gcm ↔ K = "GCM" := by
    constructor
    · intro hchannel
      rw [hchannel] at hc
      exact (Option.some.inj hc).symm
    · rintro rfl
      exact kind?_inj hc rfl
  have hknown : (d.endpointChannel = .gcm ∨ d.endpointChannel = .apns) ∨
      d.endpointChannel = .apnsSandbox := by
    cases hchannel : d.endpointChannel <;> simp_all [kind?]
  unfold UserDevice.endpointIsSupportedForPlatform TakesKind
  split
  · rename_i handroid
    rw [handroid, decide_eq_true_iff, hgcm]
    simp only [hplatform, true_and, false_or]
  · rename_i handroid
    simp only [handroid, false_and, or_false]
    split
    · rename_i hios
      simpa only [hios, Bool.or_eq_true, decide_eq_true_iff, iff_true] using hknown
    · rename_i hios
      simp only [hios, Bool.false_eq_true]

/-- **The parser accepts exactly its grammar**, and the ARNs that SNS hands out are in it.
Only the application and the id have to be free of colons.
SRC: sns/models.rs:24-53 -/
theorem endpoint_arn_grammar (d : UserDevice) :
    (∃! r, AfterLastColon d.endpointArn r) ∧
    (∀ r, AfterLastColon d.endpointArn r → ReadsGrammar d r) ∧
    ∀ c K region account app id, kind? c = some K → ':' ∉ app.toList → ':' ∉ id.toList →
      d.endpointArn = snsEndpointArn region account K app id →
        d.endpointChannel = c ∧
          (d.endpointIsSupportedForPlatform = true ↔ TakesKind d.platform K) := by
  refine ⟨existsUnique_afterLastColon d.endpointArn, fun r hr => readsGrammar hr, ?_⟩
  intro c K region account app id hc happ hid harn
  have hlast := afterLastColon_snsEndpointArn hc region account happ hid
  rw [← harn] at hlast
  have hchannel : d.endpointChannel = c :=
    (endpointChannel_eq_iff hlast hc).mpr (namesKind_endpoint K (app ++ "/" ++ id))
  refine ⟨hchannel, endpointIsSupportedForPlatform_iff ?_⟩
  rw [hchannel, hc]

end AlertDistributor.Analysis
