import Arbora.Scaling.IntentRecords
import Arbora.Security.RunToken
import Mathlib.Data.List.DropRight

/-! What a spawn may use: its principal's ceiling over the tools it asks for, and a token for them. -/
namespace Arbora.Security

def unrestrictedCapabilities : List String := ["*","kg:*","kg:admin","admin","superuser","root"]

/-- The stripped names that are not empty, each where it first stands. -/
def dedup (items : List String) : List String := ((items.map Scaling.strip).filter (· ≠ "")).eraseDups

structure CeilingDecision where
  (effective denied : List String)
  enforced : Bool
deriving DecidableEq

def enforceCeiling (requested ceiling : List String) (mode : DelegationMode) : CeilingDecision :=
  let req := dedup requested
  let ceil := dedup ceiling
  if mode = .off ∨ ceil = [] ∨ ceil.any (· ∈ unrestrictedCapabilities) then ⟨req,[],false⟩
  else
    let denied := req.filter (· ∉ ceil)
    if denied = [] then ⟨req,[],false⟩
    else if mode = .on then ⟨req.filter (· ∈ ceil),denied,true⟩
    -- the warning mode only says what it would deny
    else ⟨req,denied,false⟩

variable {Time : Type} [LinearOrder Time] [Add Time] [OfNat Time 1] [OfNat Time 3600] (F : FloatText Time)

def mintSpawnRunToken (env : Environment) (runId principal tenant : String) (allowedTools : Option (List String))
    (ttlSeconds : Time) (operations : List String) (now : Time) : Except Raised (String × Time) := do
  -- no tools read the same as an empty list of them
  let endpoints := if allowedTools.getD [] ≠ [] then dedup (allowedTools.getD []) else ["*"]
  let ttl := max 1 (min ttlSeconds 3600)
  let operations := if dedup operations ≠ [] then dedup operations else ["read"]
  let token ← mintToken F env runId "" endpoints operations ttl principal tenant now
  .ok (token,now+ttl)

end Arbora.Security

/-! A minted token decodes to what it was minted for; what it is accepted for is the scope it carries. -/
namespace Arbora.Security

section
variable {members : List (String × Json.Document)}

theorem filter_key {key : String} {d : Json.Document} (hnodup : (members.map Prod.fst).Nodup)
    (h : (key,d) ∈ members) : members.filter (·.1 = key) = [(key,d)] := by
  induction members with
  | nil => cases h
  | cons m members ih =>
    rw [List.map_cons,List.nodup_cons] at hnodup
    rcases List.mem_cons.mp h with rfl | hlater
    · have hrest : members.filter (·.1 = key) = [] := by
        rw [List.filter_eq_nil_iff]
        intro m hm heq
        have hkey : m.1 = key := of_decide_eq_true heq
        exact hnodup.1 (List.mem_map.mpr ⟨m,hm,hkey⟩)
      rw [List.filter_cons,if_pos (decide_eq_true rfl),hrest]
    · have hne : m.1 ≠ key := by
        intro hkey
        exact hnodup.1 (List.mem_map.mpr ⟨(key,d),hlater,hkey.symm⟩)
      rw [List.filter_cons,if_neg (by simpa using hne)]
      exact ih hnodup.2 hlater

theorem member_sorted {key : String} {d : Json.Document} (hnodup : (members.map Prod.fst).Nodup)
    (h : (key,d) ∈ members) : member key (Json.sorted members) = some d := by
  have hperm := List.perm_insertionSort (fun a b : String × Json.Document => a.1 ≤ b.1) members
  have hsorted := filter_key ((hperm.map Prod.fst).nodup_iff.mpr hnodup) (hperm.mem_iff.mpr h)
  unfold member Json.sorted
  dsimp only
  rw [hsorted]
  rfl

end

variable {Time : Type} (F : FloatText Time) {env : Environment}

theorem asStrings_map (names : List String) : asStrings (.array (names.map .string)) = .ok names := by
  have hitems : (names.map Json.Document.string).mapM asString = .ok names := by
    induction names with
    | nil => rfl
    | cons name names ih =>
      rw [List.map_cons,List.mapM_cons,ih]
      rfl
  exact hitems

theorem fromData_payload (token : RunToken Time) : fromData F (payload F token) = .ok token := by
  have hget : ∀ {key : String} {d : Json.Document}, (key,d) ∈ [
      ("run_id",.string token.runId),
      ("project",.string token.project),
      ("endpoints",.array (token.endpoints.map .string)),
      ("operations",.array (token.operations.map .string)),
      ("expires_at",.number (F.repr token.expiresAt)),
      ("actor_id",.string token.actorId),
      ("tenant_id",.string token.tenantId)] → member key (payload F token) = some d := by
    intro key d h
    refine member_sorted ?_ h
    change ["run_id","project","endpoints","operations","expires_at","actor_id","tenant_id"].Nodup
    decide
  have hproject : stringOr "" "project" (payload F token) = .ok token.project := by
    unfold stringOr
    rw [hget (d := .string token.project) (by simp)]
    rfl
  have hactor : stringOr "" "actor_id" (payload F token) = .ok token.actorId := by
    unfold stringOr
    rw [hget (d := .string token.actorId) (by simp)]
    rfl
  have htenant : stringOr "" "tenant_id" (payload F token) = .ok token.tenantId := by
    unfold stringOr
    rw [hget (d := .string token.tenantId) (by simp)]
    rfl
  have hendpoints : stringsOr [] "endpoints" (payload F token) = .ok token.endpoints := by
    unfold stringsOr
    rw [hget (d := .array (token.endpoints.map .string)) (by simp)]
    exact asStrings_map token.endpoints
  have hoperations : stringsOr [] "operations" (payload F token) = .ok token.operations := by
    unfold stringsOr
    rw [hget (d := .array (token.operations.map .string)) (by simp)]
    exact asStrings_map token.operations
  unfold fromData
  rw [hget (d := .string token.runId) (by simp),hget (d := .number (F.repr token.expiresAt)) (by simp)]
  dsimp only
  rw [hproject,hactor,htenant,hendpoints,hoperations,F.float_repr]
  rfl

theorem splitDot_encode (data : List ℕ) (rest : List Char) :
    splitDot (Base64.encode data ++ '.' :: rest) = some (Base64.encode data,rest) := by
  have hbody : ∀ c ∈ Base64.encode data, decide (c ≠ '.') = true := by
    intro c hc
    refine decide_eq_true ?_
    rintro rfl
    exact absurd (Base64.mem_alphabet_of_mem_encode hc) (by decide)
  have hdrop : ('.' :: rest).dropWhile (· ≠ '.') = '.' :: rest := rfl
  have htake : ('.' :: rest).takeWhile (· ≠ '.') = [] := rfl
  unfold splitDot
  rw [List.dropWhile_append_of_pos hbody,hdrop,List.takeWhile_append_of_pos hbody,htake,List.append_nil]

theorem signature_ascii (key : List ℕ) (body : List Char) :
    (signature key body).any (fun c => 128 ≤ c.toNat) = false := by
  rw [List.any_eq_false]
  intro c hc
  have hall : Base64.alphabet.all (fun d => !decide (128 ≤ d.toNat)) = true := by decide +kernel
  have hsmall := List.all_eq_true.mp hall c (Base64.mem_alphabet_of_mem_encode hc)
  intro hbig
  rw [hbig] at hsmall
  exact Bool.false_ne_true hsmall

section

theorem decodeToken_mintToken [Add Time] {runId project : String} {endpoints operations : List String}
    {ttlSeconds : Time} {actorId tenantId : String} {now : Time} {token : String}
    (h : mintToken F env runId project endpoints operations ttlSeconds actorId tenantId now = .ok token) :
    decodeToken F env token = .ok ⟨runId,project,endpoints,operations,now+ttlSeconds,actorId,tenantId⟩ := by
  unfold mintToken at h
  cases hkey : secret env with
  | error e =>
    rw [hkey] at h
    cases h
  | ok key =>
    rw [hkey] at h
    obtain rfl := Except.ok.inj h
    have hloads : ∀ d : Json.Document,
        ((Base64.decode (Base64.encode (Base64.utf8 (String.ofList (Json.dumps d))))).bind Base64.fromUtf8).bind
          (fun text => Json.loads text.toList) = some d := by
      intro d
      rw [Base64.decode_encode (Base64.utf8_lt _),Option.bind_some,Base64.fromUtf8_utf8,Option.bind_some,
        String.toList_ofList,Json.loads_dumps]
    unfold decodeToken
    rw [String.toList_ofList,splitDot_encode]
    rw [hkey]
    dsimp only [bind,Except.bind]
    rw [signature_ascii,if_neg Bool.false_ne_true,if_neg (not_not.mpr rfl),hloads]
    exact fromData_payload F _

variable [LinearOrder Time]

def accepts (env : Environment) (token e : String) (moment : Time) : Bool :=
  match validateToken F env token (some e) none moment with
  | .ok _ => true
  | .error _ => false

theorem accepts_iff {token e : String} {moment : Time} {decoded : RunToken Time}
    (hdecode : decodeToken F env token = .ok decoded) (hlive : moment < decoded.expiresAt) :
    accepts F env token e moment = true ↔ "*" ∈ decoded.endpoints ∨ e ∈ decoded.endpoints := by
  unfold accepts validateToken
  rw [hdecode]
  change (match (if _ then _ else if _ then _ else if _ then _ else _ : Except Raised (RunToken Time)) with
    | .ok _ => true
    | .error _ => false) = true ↔ _
  rw [if_neg (not_le.mpr hlive)]
  cases hscope : inScope decoded.endpoints (some e) with
  | false =>
    unfold inScope at hscope
    simpa using hscope
  | true =>
    simpa [inScope] using hscope

end

section

variable [LinearOrder Time] [Add Time] [OfNat Time 1] [OfNat Time 3600]

def allowed (requested ceiling : List String) (e : String) : Prop := e ∈ dedup requested ∧ e ∈ dedup ceiling

variable {e : String} {items : List String}

theorem mem_dedup : e ∈ dedup items ↔ e ≠ "" ∧ ∃ item ∈ items, Scaling.strip item = e := by
  unfold dedup
  rw [List.mem_eraseDups,List.mem_filter,List.mem_map,and_comm,decide_eq_true_iff]

theorem strip_strip (value : String) : Scaling.strip (Scaling.strip value) = Scaling.strip value := by
  have hlast : ∀ l : List Char, l.dropWhile Scaling.isSpace = l →
      (l.reverse.dropWhile Scaling.isSpace).reverse.dropWhile Scaling.isSpace =
        (l.reverse.dropWhile Scaling.isSpace).reverse := by
    intro l hl
    cases l with
    | nil => rfl
    | cons c rest =>
      have hc : ¬Scaling.isSpace c = true := by
        intro hpos
        rw [List.dropWhile_cons_of_pos hpos] at hl
        have hlength := congrArg List.length hl
        have hle := (List.dropWhile_suffix (l := rest) Scaling.isSpace).length_le
        rw [List.length_cons] at hlength
        omega
      have hkeep : ((c :: rest).reverse.dropWhile Scaling.isSpace).reverse =
          c :: (rest.reverse.dropWhile Scaling.isSpace).reverse := by
        rw [List.reverse_cons,List.dropWhile_append,List.dropWhile_cons_of_neg hc]
        split_ifs with hempty
        · rw [List.isEmpty_iff.mp hempty]
          rfl
        · rw [List.reverse_append]
          rfl
      rw [hkeep,List.dropWhile_cons_of_neg hc]
  unfold Scaling.strip
  rw [String.toList_ofList,hlast (value.toList.dropWhile Scaling.isSpace) (List.dropWhile_idempotent _ _),
    List.reverse_reverse,List.dropWhile_idempotent]

theorem strip_of_mem_dedup (h : e ∈ dedup items) : Scaling.strip e = e := by
  obtain ⟨-,item,-,rfl⟩ := mem_dedup.mp h
  exact strip_strip item

theorem mem_effective {requested ceiling : List String}
    (hceiling : ∀ c ∈ dedup ceiling, c ∉ unrestrictedCapabilities) :
    e ∈ (enforceCeiling requested ceiling .on).effective ↔
      e ∈ dedup requested ∧ (e ∈ dedup ceiling ∨ dedup ceiling = []) := by
  have hany : (dedup ceiling).any (· ∈ unrestrictedCapabilities) = false := by
    rw [List.any_eq_false]
    intro c hc hmem
    exact hceiling c hc (of_decide_eq_true hmem)
  unfold enforceCeiling
  dsimp only
  rw [hany]
  by_cases hempty : dedup ceiling = []
  · rw [if_pos (.inr (.inl hempty)),hempty]
    simp
  · rw [if_neg (by simp [hempty])]
    by_cases hdenied : (dedup requested).filter (· ∉ dedup ceiling) = []
    · have hall : ∀ t ∈ dedup requested, t ∈ dedup ceiling := by
        intro t ht
        by_contra hnot
        have hmem : t ∈ (dedup requested).filter (· ∉ dedup ceiling) := List.mem_filter.mpr ⟨ht,decide_eq_true hnot⟩
        rw [hdenied] at hmem
        cases hmem
      rw [if_pos hdenied]
      exact ⟨fun h => ⟨h,.inl (hall e h)⟩,fun h => h.1⟩
    · rw [if_neg hdenied,if_pos rfl]
      simp [hempty]

/-- Names that are stripped already are told apart only. -/
theorem mem_dedup_of_stripped (h : ∀ t ∈ items, t ∈ dedup items) : e ∈ dedup items ↔ e ∈ items := by
  refine ⟨fun he => ?_,h e⟩
  obtain ⟨-,item,hitem,rfl⟩ := mem_dedup.mp he
  rw [strip_of_mem_dedup (h item hitem)]
  exact hitem

theorem accepts_spawn {env : Environment} {runId principal tenant : String} {tools : List String} {ttlSeconds : Time}
    {operations : List String} {now : Time} {token : String} {expires moment : Time}
    (hmint : mintSpawnRunToken F env runId principal tenant (some tools) ttlSeconds operations now =
      .ok (token,expires)) (hlive : moment < expires) (e : String) :
    accepts F env token e moment = true ↔ tools = [] ∨ "*" ∈ dedup tools ∨ e ∈ dedup tools := by
  unfold mintSpawnRunToken at hmint
  dsimp only [Option.getD_some] at hmint
  cases htoken : mintToken F env runId "" (if tools ≠ [] then dedup tools else ["*"])
      (if dedup operations ≠ [] then dedup operations else ["read"]) (max 1 (min ttlSeconds 3600)) principal tenant
      now with
  | error raised =>
    rw [htoken] at hmint
    cases hmint
  | ok minted =>
    rw [htoken] at hmint
    obtain ⟨rfl,rfl⟩ := Prod.mk.inj (Except.ok.inj hmint)
    rw [accepts_iff F (decodeToken_mintToken F htoken) hlive]
    dsimp only
    split_ifs with htools
    · rw [or_iff_right htools]
    · have hempty : tools = [] := not_not.mp htools
      simp [hempty]

/-- Before it expires a spawn's token is accepted for exactly the allowed tools just when there is one; else the
empty scope reads as a wildcard. -/
theorem run_token_within_ceiling {env : Environment} {requested ceiling : List String}
    (hceiling : ∀ c ∈ dedup ceiling, c ∉ unrestrictedCapabilities) {runId principal tenant : String}
    {ttlSeconds : Time} {operations : List String} {now : Time} {token : String} {expires moment : Time}
    (hmint : mintSpawnRunToken F env runId principal tenant (some (enforceCeiling requested ceiling .on).effective)
      ttlSeconds operations now = .ok (token,expires)) (hlive : moment < expires) :
    ((∀ e, accepts F env token e moment = true ↔ allowed requested ceiling e) ↔
      ∃ tool, allowed requested ceiling tool) ∧
    ((∀ e, accepts F env token (Scaling.strip e) moment = true ↔ allowed requested ceiling (Scaling.strip e)) ↔
      ∃ tool, allowed requested ceiling tool) := by
  have haccepts := accepts_spawn F hmint hlive
  have heffective : ∀ e, e ∈ (enforceCeiling requested ceiling .on).effective ↔
      e ∈ dedup requested ∧ (e ∈ dedup ceiling ∨ dedup ceiling = []) := fun _ => mem_effective hceiling
  generalize (enforceCeiling requested ceiling .on).effective = tools at haccepts heffective
  have hstripped : ∀ t ∈ tools, t ∈ dedup tools := by
    intro t ht
    obtain ⟨hne,item,hitem,hitemStrip⟩ := mem_dedup.mp ((heffective t).mp ht).1
    exact mem_dedup.mpr ⟨hne,t,ht,strip_of_mem_dedup ((heffective t).mp ht).1⟩
  -- with a tool that is allowed there is a ceiling, and the scope holds what is allowed and no wildcard
  have hholds : (∃ tool, allowed requested ceiling tool) → ∀ e, accepts F env token e moment = true ↔
      allowed requested ceiling e := by
    rintro ⟨tool,htool⟩ e
    have hceil : dedup ceiling ≠ [] := List.ne_nil_of_mem htool.2
    have hscope : ∀ e, e ∈ tools ↔ allowed requested ceiling e := by
      intro e
      rw [heffective,or_iff_left hceil]
      rfl
    have hwild : "*" ∉ tools := by
      intro h
      exact hceiling "*" ((hscope "*").mp h).2 (by decide)
    have hsome : tools ≠ [] := List.ne_nil_of_mem ((hscope tool).mpr htool)
    rw [haccepts,mem_dedup_of_stripped hstripped,mem_dedup_of_stripped hstripped,or_iff_right hsome,
      or_iff_right hwild,hscope]
  -- without one the scope is that of no ceiling, or it is empty
  have hfails : (¬∃ tool, allowed requested ceiling tool) → ∃ e, Scaling.strip e = e ∧
      accepts F env token e moment = true := by
    intro hnone
    cases hfirst : tools with
    | nil => exact ⟨"x",by decide +kernel,(haccepts "x").mpr (.inl hfirst)⟩
    | cons tool rest =>
      have htool : tool ∈ dedup tools := hstripped tool (by rw [hfirst]; exact List.mem_cons_self)
      exact ⟨tool,strip_of_mem_dedup htool,(haccepts tool).mpr (.inr (.inr htool))⟩
  refine ⟨⟨fun h => ?_,hholds⟩,⟨fun h => ?_,fun h e => hholds h (Scaling.strip e)⟩⟩
  · by_contra hnone
    obtain ⟨e,-,he⟩ := hfails hnone
    exact hnone ⟨e,(h e).mp he⟩
  · by_contra hnone
    obtain ⟨e,hstrip,he⟩ := hfails hnone
    have hallowed := (h e).mp (by rw [hstrip]; exact he)
    exact hnone ⟨_,hallowed⟩

theorem mintSpawnRunToken_ok {env : Environment} {key : List ℕ} (hkey : secret env = .ok key)
    (runId principal tenant : String) (tools : Option (List String)) (ttlSeconds : Time) (operations : List String)
    (now : Time) : ∃ token, mintSpawnRunToken F env runId principal tenant tools ttlSeconds operations now =
      .ok (token,now+max 1 (min ttlSeconds 3600)) := by
  unfold mintSpawnRunToken mintToken
  rw [hkey]
  exact ⟨_,rfl⟩

end

theorem digits_ne_nil (n : ℕ) : Nat.toDigits 10 n ≠ [] := Nat.toDigits_ne_nil

theorem numeric_digits (n : ℕ) : ∀ c ∈ Nat.toDigits 10 n, Json.numeric c = true := by
  intro c hc
  simp [Json.numeric,Nat.isDigit_of_mem_toDigits (by decide) (by decide) hc]

def wholeSeconds : FloatText ℕ where
  repr n := ⟨Nat.toDigits 10 n,digits_ne_nil n,numeric_digits n⟩
  float number := some (Nat.ofDigitChars 10 number.text 0)
  float_repr n := congrArg some Nat.ofDigitChars_ten_toDigits

def configured : Environment := ⟨"secret",.on,[]⟩

theorem run_token_within_ceiling_here : ∃ token expires,
    mintSpawnRunToken wholeSeconds configured "run" "alice" "acme"
      (some (enforceCeiling [" read ","deploy"] ["read"] .on).effective) 60 ["read","write"] 1000 =
        .ok (token,expires) ∧
    ((∀ e, accepts wholeSeconds configured token e 1030 = true ↔ allowed [" read ","deploy"] ["read"] e) ↔
      ∃ tool, allowed [" read ","deploy"] ["read"] tool) ∧
    ((∀ e, accepts wholeSeconds configured token (Scaling.strip e) 1030 = true ↔
        allowed [" read ","deploy"] ["read"] (Scaling.strip e)) ↔
      ∃ tool, allowed [" read ","deploy"] ["read"] tool) := by
  have hkey : secret configured = .ok (Base64.utf8 "secret") := rfl
  obtain ⟨token,hmint⟩ := mintSpawnRunToken_ok wholeSeconds hkey "run" "alice" "acme"
    (some (enforceCeiling [" read ","deploy"] ["read"] .on).effective) 60 ["read","write"] 1000
  exact ⟨token,_,hmint,run_token_within_ceiling wholeSeconds (by decide +kernel) hmint (by decide)⟩

/-- A ceiling that denies the one tool asked for leaves a token that is accepted everywhere. -/
theorem denied_tool_accepted : ∃ token expires, enforceCeiling ["deploy"] ["read"] .on = ⟨[],["deploy"],true⟩ ∧
    mintSpawnRunToken wholeSeconds configured "run" "alice" "acme"
      (some (enforceCeiling ["deploy"] ["read"] .on).effective) 60 ["read","write"] 1000 = .ok (token,expires) ∧
    1030 < expires ∧ ∀ e, accepts wholeSeconds configured token e 1030 = true ∧ ¬allowed ["deploy"] ["read"] e := by
  have hkey : secret configured = .ok (Base64.utf8 "secret") := rfl
  have heffective : (enforceCeiling ["deploy"] ["read"] .on).effective = [] := by decide +kernel
  obtain ⟨token,hmint⟩ := mintSpawnRunToken_ok wholeSeconds hkey "run" "alice" "acme"
    (some (enforceCeiling ["deploy"] ["read"] .on).effective) 60 ["read","write"] 1000
  refine ⟨token,_,by decide +kernel,hmint,by decide,fun e => ⟨?_,fun h => ?_⟩⟩
  · exact (accepts_spawn wholeSeconds hmint (by decide) e).mpr (.inl heffective)
  · have hrequested : dedup ["deploy"] = ["deploy"] := by decide +kernel
    have hceiling : dedup ["read"] = ["read"] := by decide +kernel
    unfold allowed at h
    rw [hrequested,hceiling,List.mem_singleton,List.mem_singleton] at h
    obtain ⟨rfl,h⟩ := h
    exact absurd h (by decide)

end Arbora.Security
