import Ansisop.Lib.Run
import Ansisop.Umv.Search

/-!
The logical addresses of a process. `crearSegmento` takes what `rand()` gives it; the function that
was to look at the segments of the process first, `asignarMemoriaAleatoria`, stands in a comment
next to the call.

The first part says when the addresses stay apart over a run, the second what
`asignarMemoriaAleatoria` would have made of it: its test misses the range that contains a segment.
-/

namespace Ansisop.Umv

open Ansisop.Sockets Ansisop.Lib Ansisop.Lib.Blocks

/-! ### Unambiguous addresses -/

/-- The logical addresses of the table name one segment each: those of one process start apart and
do not meet, the search by address finds the segment it is asked for, and no address of a segment
lies past the largest `int`. -/
structure SinAmbiguedad (u : Estado) : Prop where
  apartados : u.listSeg.Pairwise fun s t => s.idProc = t.idProc →
    s.dirLogica ≠ t.dirLogica ∧ Disjoint (Set.Ico s.dirLogica (s.dirLogica + s.tamSeg))
      (Set.Ico t.dirLogica (t.dirLogica + t.tamSeg))
  busqueda : ∀ s ∈ u.listSeg, buscarSegmentoDirLogica u s.idProc s.dirLogica = some s
  tope : ∀ s ∈ u.listSeg, s.dirLogica + s.tamSeg ≤ 2 ^ 31 - 1

/-- The address is one no segment of the process has a part in, with room up to the largest `int`. -/
structure Fresca (u : Estado) (idProc tam dirLogica : ℤ) : Prop where
  apartada : ∀ s ∈ u.listSeg, s.idProc = idProc →
    s.dirLogica ≠ dirLogica ∧ Disjoint (Set.Ico s.dirLogica (s.dirLogica + s.tamSeg))
      (Set.Ico dirLogica (dirLogica + tam))
  tope : dirLogica + tam ≤ 2 ^ 31 - 1

/-- Where there is memory for the segment asked for, `rand()` answers a fresh address. -/
def Llamada.RandFresca (u : Estado) : Llamada → Prop
  | .crearSegmento e menPed => (u.listSeg.map Seg.tamSeg).sum + menPed.tamSeg ≤ u.tamMemTotal →
    Fresca u menPed.idProg menPed.tamSeg e.rand
  | _ => True

/-- Two descriptors of one process start apart and do not meet. -/
def Descriptor.Aparte (d d' : Descriptor) : Prop :=
  d.idProc = d'.idProc → d.dirLogica ≠ d'.dirLogica ∧
    Disjoint (Set.Ico d.dirLogica (d.dirLogica + d.tamSeg))
      (Set.Ico d'.dirLogica (d'.dirLogica + d'.tamSeg))

lemma Descriptor.Aparte.symm {d d' : Descriptor} (h : d.Aparte d') : d'.Aparte d :=
  fun hid => ⟨((h hid.symm).1).symm, ((h hid.symm).2).symm⟩

/-- What unambiguous addresses say of the descriptors. -/
structure Ordenados (l : List Descriptor) : Prop where
  aparte : l.Pairwise Descriptor.Aparte
  tope : ∀ d ∈ l, d.dirLogica + d.tamSeg ≤ 2 ^ 31 - 1

lemma Ordenados.sublist {l l' : List Descriptor} (h : Ordenados l) (hs : l'.Sublist l) :
    Ordenados l' :=
  ⟨h.aparte.sublist hs, fun d hd => h.tope d (hs.subset hd)⟩

lemma Ordenados.perm {l l' : List Descriptor} (h : Ordenados l) (hp : l.Perm l') : Ordenados l' :=
  ⟨(hp.pairwise_iff fun hd => hd.symm).1 h.aparte, fun d hd => h.tope d (hp.mem_iff.2 hd)⟩

/-- Only segments that start apart are told from each other by the search. -/
lemma buscar_of_apartados {u : Estado} (h : u.descriptores.Pairwise Descriptor.Aparte) {s : Seg}
    (hs : s ∈ u.listSeg) : buscarSegmentoDirLogica u s.idProc s.dirLogica = some s := by
  unfold Estado.descriptores at h
  rw [List.pairwise_map] at h
  unfold buscarSegmentoDirLogica
  generalize u.listSeg = l at h hs ⊢
  induction l with
  | nil => cases hs
  | cons t l ih =>
    obtain ⟨ht, hl⟩ := List.pairwise_cons.1 h
    rcases List.mem_cons.1 hs with rfl | hs'
    · exact List.find?_cons_of_pos (by simp)
    · have hne : ¬ (t.dirLogica = s.dirLogica ∧ t.idProc = s.idProc) :=
        fun he => (ht s hs' he.2).1 he.1
      rw [List.find?_cons_of_neg (by simpa using hne)]
      exact ih hl hs'

lemma sinAmbiguedad_iff (u : Estado) : SinAmbiguedad u ↔ Ordenados u.descriptores := by
  constructor
  · intro h
    refine ⟨List.pairwise_map.2 h.apartados, fun d hd => ?_⟩
    obtain ⟨s, hs, rfl⟩ := List.mem_map.1 hd
    exact h.tope s hs
  · intro h
    exact ⟨List.pairwise_map.1 h.aparte, fun s hs => buscar_of_apartados h.aparte hs,
      fun s hs => h.tope s.descriptor (List.mem_map_of_mem hs)⟩

/-! ### Runs -/

lemma correr_eq_run (cs : List Llamada) (u : Estado) : correr cs u = run Llamada.paso cs u := by
  induction cs generalizing u with
  | nil => rfl
  | cons c cs ih =>
    show (c.paso u).bind (correr cs) = (c.paso u).bind (run Llamada.paso cs)
    exact congrArg _ (funext ih)

/-- A segment after the others is apart from them when its address is fresh. -/
lemma ordenados_snoc_iff {u : Estado} (h : Ordenados u.descriptores) (rand : ℤ)
    (menPed : MenSeg) : Ordenados (u.descriptores ++ [descriptorPedido rand menPed]) ↔
      Fresca u menPed.idProg menPed.tamSeg rand := by
  constructor
  · intro h'
    refine ⟨fun s hs hid => ?_, h'.tope _ (List.mem_append_right _ (List.mem_singleton_self _))⟩
    have hap := (List.pairwise_append.1 h'.aparte).2.2 s.descriptor (List.mem_map_of_mem hs) _
      (List.mem_singleton_self _)
    exact hap hid
  · intro hf
    refine ⟨List.pairwise_append.2 ⟨h.aparte, List.pairwise_singleton _ _, ?_⟩, fun d hd => ?_⟩
    · intro d hd d' hd' hid
      obtain ⟨s, hs, rfl⟩ := List.mem_map.1 hd
      obtain rfl := List.mem_singleton.1 hd'
      exact hf.apartada s hs hid
    · rcases List.mem_append.1 hd with hd | hd
      · exact h.tope d hd
      · obtain rfl := List.mem_singleton.1 hd
        exact hf.tope

/-- **One call keeps the addresses unambiguous exactly when the address it takes is fresh.** -/
lemma Llamada.paso_ordenados_iff {c : Llamada} {u u' : Estado} (hT : Tabla u.tamMemTotal u.listSeg)
    (h : Ordenados u.descriptores) (hc : c.Admitida) (hp : c.paso u = some u') :
    Ordenados u'.descriptores ↔ c.RandFresca u := by
  have hmismo : u'.listSeg = u.listSeg → Ordenados u'.descriptores := by
    intro heq
    unfold Estado.descriptores at h ⊢
    rwa [heq]
  cases c with
  | crearSegmento e menPed =>
    obtain rfl := Option.some.inj hp
    rcases crearSegmento_casos e menPed hT hc with
      ⟨-, hperm, hlt⟩ | ⟨v, resp, heq, hd, hTv, hl⟩
    · have hlt : u.tamMemTotal < (u.listSeg.map Seg.tamSeg).sum + menPed.tamSeg := hlt
      exact ⟨fun _ hle => absurd hle (not_le.2 hlt), fun _ => h.perm hperm.symm⟩
    · have hle := hl.total_le hTv hc
      rw [total_eq_of_descriptores hd] at hle
      have hdesc : (Umv.crearSegmento e menPed u).1.descriptores
          = v.descriptores ++ [descriptorPedido e.rand menPed] := by
        rw [heq]
        simp [agregarSegmento, Estado.descriptores, Seg.descriptor, descriptorPedido]
      have hperm := hd.append_right [descriptorPedido e.rand menPed]
      rw [hdesc]
      refine Iff.trans ⟨fun h' => h'.perm hperm, fun h' => h'.perm hperm.symm⟩ ?_
      rw [ordenados_snoc_iff h]
      exact ⟨fun hf _ => hf, fun hf => hf hle⟩
  | destruirSegmentos idProg =>
    obtain rfl := Option.some.inj hp
    exact iff_of_true (h.sublist ((destruirSegmentos_sublist idProg u).map _)) trivial
  | compactar ls pila =>
    obtain rfl := Option.some.inj hp
    exact iff_of_true (h.perm (compactar_descriptores ls pila u).symm) trivial
  | cambiarAlgoritmo =>
    obtain rfl := Option.some.inj hp
    refine iff_of_true (hmismo ?_) trivial
    unfold Umv.cambiarAlgoritmo
    split <;> rfl
  | almacenarSegmento auxMen idProc =>
    obtain rfl := Option.some.inj hp
    exact iff_of_true (hmismo (almacenarSegmento_frame auxMen idProc u).1) trivial
  | almacenarBytes idProc base offset tam buffer =>
    obtain ⟨⟨v, r⟩, hr, rfl⟩ := Option.map_eq_some_iff.1 hp
    exact iff_of_true (hmismo (almacenarBytes_frame hr).1) trivial
  | solicitarBytes idProc base offset tam =>
    obtain ⟨r, -, rfl⟩ := Option.map_eq_some_iff.1 hp
    exact iff_of_true h trivial

/-- **The logical addresses of a process are unambiguous in every state of a run exactly when every
segment that is made gets a fresh address**: `crearSegmento` asks `rand()` for one and looks at
nothing else. -/
theorem correr_sinAmbiguedad_iff (memPrin : ℤ → Byte) (algActual tamMemTotal : ℤ)
    (htot : 0 ≤ tamMemTotal) (cs : List Llamada) (hcs : ∀ c ∈ cs, c.Admitida) :
    (∀ pre post u, cs = pre ++ post →
        correr pre (inicial memPrin algActual tamMemTotal) = some u → SinAmbiguedad u) ↔
      Along Llamada.paso (fun u c => c.RandFresca u) cs
        (inicial memPrin algActual tamMemTotal) := by
  have hpaso : ∀ u c u', (0 ≤ u.tamMemTotal ∧ Tabla u.tamMemTotal u.listSeg) → c.Admitida →
      Llamada.paso c u = some u' → 0 ≤ u'.tamMemTotal ∧ Tabla u'.tamMemTotal u'.listSeg := by
    rintro u c u' ⟨h0, hT⟩ hc hp
    obtain ⟨h₁, h₂⟩ := c.paso_tabla hc h0 hT hp
    exact ⟨by rw [h₁]; exact h0, by rw [h₁]; exact h₂⟩
  have hnone : ∀ u c, Llamada.paso c u = none → c.RandFresca u := by
    intro u c hn
    cases c with
    | crearSegmento e menPed => cases hn
    | _ => trivial
  simp only [correr_eq_run, sinAmbiguedad_iff]
  exact forall_prefix_iff hpaso (fun u c u' hv h hc hp => c.paso_ordenados_iff hv.2 h hc hp) hnone
    cs _ hcs ⟨htot, Layout.nil⟩ ⟨List.Pairwise.nil, fun d hd => by cases hd⟩

/-- Two segments of one process on addresses that do not meet. -/
theorem correr_sinAmbiguedad_dosSegmentos :
    ∃ u, correr (dosSegmentos 100 200) (inicial (fun _ => 7) firstFitMode 16) = some u ∧
      SinAmbiguedad u := by
  have hiff := correr_sinAmbiguedad_iff (fun _ => 7) firstFitMode 16 (by decide)
    (dosSegmentos 100 200) (by simp [dosSegmentos, pedir, Llamada.Admitida])
  refine ⟨_, rfl, hiff.2 ?_ (dosSegmentos 100 200) [] _ (List.append_nil _).symm rfl⟩
  refine ⟨fun _ => ⟨by simp [inicial], by decide⟩, fun u hu => ?_⟩
  obtain rfl := Option.some.inj hu
  refine ⟨fun _ => ⟨?_, by decide⟩, fun u hu => trivial⟩
  intro s hs _
  obtain rfl := List.mem_singleton.1 hs
  exact ⟨by decide, by rw [Set.Ico_disjoint_Ico]; decide⟩

/-- `rand()` gives the same address twice: the search finds the first of the two segments for both,
and one address near the largest `int` is enough for the other part. -/
theorem correr_ambiguo_dosSegmentos :
    (∃ u, correr (dosSegmentos 100 100) (inicial (fun _ => 7) firstFitMode 16) = some u ∧
        ¬ SinAmbiguedad u) ∧
      ∃ u, correr (dosSegmentos 100 (2 ^ 31 - 1)) (inicial (fun _ => 7) firstFitMode 16) = some u ∧
        ¬ SinAmbiguedad u := by
  constructor
  · refine ⟨_, rfl, fun h => ?_⟩
    exact (List.rel_of_pairwise_cons h.apartados (List.mem_singleton_self _) rfl).1 rfl
  · refine ⟨_, rfl, fun h => ?_⟩
    exact absurd (h.tope _ (List.mem_cons_of_mem _ (List.mem_singleton_self _))) (by decide)

/-! ### `asignarMemoriaAleatoria` -/

/-- The sum of two `int`s; there is none when no `int` holds it. -/
def sumaInt (a b : ℤ) : Option ℤ := if -2 ^ 31 ≤ a + b ∧ a + b < 2 ^ 31 then some (a + b) else none

/-- `dir_logica <= x && dir_logica + tam_seg >= x`. -/
def contiene (nodo : Seg) (x : ℤ) : Option Bool :=
  if nodo.dirLogica ≤ x then
    (sumaInt nodo.dirLogica nodo.tamSeg).map fun fin => decide (x ≤ fin)
  else some false

/-- `x <= dir_logica && x >= dir_logica + tam_seg`. -/
def precede (nodo : Seg) (x : ℤ) : Option Bool :=
  if x ≤ nodo.dirLogica then
    (sumaInt nodo.dirLogica nodo.tamSeg).map fun fin => decide (fin ≤ x)
  else some false

/-- `a || b`: the second is evaluated when the first is false. -/
def oSino (a b : Option Bool) : Option Bool := a.bind fun p => if p then some true else b

/-- The test of the scan: `ret` lies in the segment, or `ret + tamanio` does, or the third case,
which asks that `ret` be both below the segment and past its end. -/
def sePisa (ret tamanio : ℤ) (nodo : Seg) : Option Bool :=
  oSino (contiene nodo ret)
    (oSino ((sumaInt ret tamanio).bind (contiene nodo)) (precede nodo ret))

/-- What the scan of the list carries: the calls of `rand()` so far, the candidate, and whether no
segment has met it. -/
structure Sorteo where
  usados : ℕ
  ret : ℤ
  memEstaOk : Bool
  deriving DecidableEq, Repr

/-- The scan: a candidate that meets a segment is drawn again, and the scan goes on with the next
segment. `rand k` is the `k`-th answer of `rand()`. -/
def recorrer (rand : ℕ → ℤ) (tamanio id : ℤ) : List Seg → Sorteo → Option Sorteo
  | [], x => some x
  | nodo :: l, x =>
    if nodo.idProc = id then
      match sePisa x.ret tamanio nodo with
      | none => none
      | some true => recorrer rand tamanio id l ⟨x.usados + 1, rand x.usados, false⟩
      | some false => recorrer rand tamanio id l x
    else recorrer rand tamanio id l x

/-- The `do`-`while`: scans until one draws nothing. -/
def repetir (rand : ℕ → ℤ) (tamanio id : ℤ) (l : List Seg) : ℕ → ℕ → ℤ → Option ℤ
  | 0, _, _ => none
  | fuel + 1, usados, ret =>
    match recorrer rand tamanio id l ⟨usados, ret, true⟩ with
    | none => none
    | some x =>
      if x.memEstaOk then some x.ret else repetir rand tamanio id l fuel x.usados x.ret

/-- `asignarMemoriaAleatoria`, for at most `fuel` scans. -/
def asignarMemoriaAleatoria (fuel : ℕ) (rand : ℕ → ℤ) (tamanio id : ℤ) (u : Estado) : Option ℤ :=
  repetir rand tamanio id u.listSeg fuel 1 (rand 0)

/-- The test lets the address through, against every segment of the process. -/
def Acepta (l : List Seg) (tamanio id ret : ℤ) : Prop :=
  ∀ s ∈ l, s.idProc = id → sePisa ret tamanio s = some false

/-- No sum of the test overflows. -/
def SinDesborde (l : List Seg) (tamanio id ret : ℤ) : Prop :=
  ∀ s ∈ l, s.idProc = id → sePisa ret tamanio s ≠ none

/-- The range from the address on has a segment of the process inside, with bytes to spare on both
sides. -/
def Envuelve (l : List Seg) (tamanio id ret : ℤ) : Prop :=
  ∃ s ∈ l, s.idProc = id ∧ 0 < s.tamSeg ∧ ret < s.dirLogica ∧
    s.dirLogica + s.tamSeg < ret + tamanio

/-- The range from the address on meets no segment of the process. -/
def Ajena (l : List Seg) (tamanio id ret : ℤ) : Prop :=
  ∀ s ∈ l, s.idProc = id → Disjoint (Set.Ico ret (ret + tamanio))
    (Set.Ico s.dirLogica (s.dirLogica + s.tamSeg))

lemma sumaInt_some {a b c : ℤ} (h : sumaInt a b = some c) : c = a + b := by
  unfold sumaInt at h
  split at h
  · exact (Option.some.inj h).symm
  · cases h

lemma oSino_false {a b : Option Bool} :
    oSino a b = some false ↔ a = some false ∧ b = some false := by
  rcases a with _ | _ | _ <;> simp [oSino]

lemma contiene_false {nodo : Seg} {x : ℤ} (h : contiene nodo x = some false) :
    x < nodo.dirLogica ∨ nodo.dirLogica + nodo.tamSeg < x := by
  unfold contiene at h
  by_cases hx : nodo.dirLogica ≤ x
  · rw [if_pos hx] at h
    obtain ⟨fin, hfin, hd⟩ := Option.map_eq_some_iff.1 h
    obtain rfl := sumaInt_some hfin
    exact .inr (not_le.1 (of_decide_eq_false hd))
  · exact .inl (not_le.1 hx)

/-- What the test lets through: neither end of the range lies in the segment, its last address
counted. -/
lemma sePisa_false {ret tamanio : ℤ} {s : Seg} (h : sePisa ret tamanio s = some false) :
    (ret < s.dirLogica ∨ s.dirLogica + s.tamSeg < ret) ∧
      (ret + tamanio < s.dirLogica ∨ s.dirLogica + s.tamSeg < ret + tamanio) := by
  obtain ⟨h₁, h₂⟩ := oSino_false.1 h
  obtain ⟨h₂, -⟩ := oSino_false.1 h₂
  obtain ⟨tope, htope, h₂⟩ := Option.bind_eq_some_iff.1 h₂
  obtain rfl := sumaInt_some htope
  exact ⟨contiene_false h₁, contiene_false h₂⟩

/-- **What the test misses**: an address it lets through meets a segment of the process exactly when
its range has the segment inside. -/
lemma Acepta.ajena_iff {l : List Seg} {tamanio id ret : ℤ} (h : Acepta l tamanio id ret)
    (h0 : ∀ s ∈ l, 0 ≤ s.tamSeg) (ht : 1 ≤ tamanio) :
    Ajena l tamanio id ret ↔ ¬ Envuelve l tamanio id ret := by
  have key : ∀ s ∈ l, s.idProc = id → (Disjoint (Set.Ico ret (ret + tamanio))
      (Set.Ico s.dirLogica (s.dirLogica + s.tamSeg)) ↔
        ¬ (0 < s.tamSeg ∧ ret < s.dirLogica ∧ s.dirLogica + s.tamSeg < ret + tamanio)) := by
    intro s hs hid
    have hs0 := h0 s hs
    obtain ⟨h₁, h₂⟩ := sePisa_false (h s hs hid)
    rw [Set.Ico_disjoint_Ico]
    omega
  constructor
  · rintro ha ⟨s, hs, hid, hcase⟩
    exact (key s hs hid).1 (ha s hs hid) hcase
  · intro hn s hs hid
    exact (key s hs hid).2 fun hcase => hn ⟨s, hs, hid, hcase⟩

section Sorteo

variable {rand : ℕ → ℤ} {tamanio id : ℤ}

/-- **One scan**, begun with the `k`-th number as the candidate, ends with the `m`-th as one: the ones
between have met a segment, and a scan that has drawn nothing has found none. -/
lemma recorrer_spec : ∀ {l : List Seg} {k : ℕ} {ok : Bool} {y : Sorteo},
    recorrer rand tamanio id l ⟨k + 1, rand k, ok⟩ = some y →
      ∃ m, k ≤ m ∧ y.usados = m + 1 ∧ y.ret = rand m ∧
        (∀ j, k ≤ j → j < m → ¬ Acepta l tamanio id (rand j)) ∧
        (y.memEstaOk = true → ok = true ∧ m = k ∧ Acepta l tamanio id (rand k)) ∧
        (y.memEstaOk = false → ok = true → k < m)
  | [], k, ok, y, h => by
    obtain rfl := Option.some.inj h
    refine ⟨k, le_rfl, rfl, rfl, fun j hj hj' => absurd hj (not_le.2 hj'), ?_, ?_⟩
    · exact fun hok => ⟨hok, rfl, by simp [Acepta]⟩
    · intro hf ht
      exact absurd (hf.symm.trans ht) (by decide)
  | s :: l, k, ok, y, h => by
    -- a number that meets a segment of the rest meets one of the list
    have hresto : ∀ j, ¬ Acepta l tamanio id (rand j) → ¬ Acepta (s :: l) tamanio id (rand j) :=
      fun j hj ha => hj fun t ht => ha t (List.mem_cons_of_mem s ht)
    unfold recorrer at h
    by_cases hid : s.idProc = id
    · rw [if_pos hid] at h
      cases hp : sePisa (rand k) tamanio s with
      | none => simp [hp] at h
      | some b =>
        cases b with
        | true =>
          simp only [hp] at h
          obtain ⟨m, hm, h₁, h₂, h₃, h₄, h₅⟩ := recorrer_spec h
          refine ⟨m, by omega, h₁, h₂, fun j hj hjm => ?_, fun hy => ?_, fun _ _ => by omega⟩
          · rcases Nat.eq_or_lt_of_le hj with rfl | hj
            · intro ha
              exact absurd ((ha s (List.mem_cons_self ..) hid).symm.trans hp) (by simp)
            · exact hresto j (h₃ j hj hjm)
          · exact absurd (h₄ hy).1 (by decide)
        | false =>
          simp only [hp] at h
          obtain ⟨m, hm, h₁, h₂, h₃, h₄, h₅⟩ := recorrer_spec h
          refine ⟨m, hm, h₁, h₂, fun j hj hjm => hresto j (h₃ j hj hjm), fun hy => ?_, h₅⟩
          obtain ⟨hok, hmk, ha⟩ := h₄ hy
          refine ⟨hok, hmk, fun t ht htid => ?_⟩
          rcases List.mem_cons.1 ht with rfl | ht
          · exact hp
          · exact ha t ht htid
    · rw [if_neg hid] at h
      obtain ⟨m, hm, h₁, h₂, h₃, h₄, h₅⟩ := recorrer_spec h
      refine ⟨m, hm, h₁, h₂, fun j hj hjm => hresto j (h₃ j hj hjm), fun hy => ?_, h₅⟩
      obtain ⟨hok, hmk, ha⟩ := h₄ hy
      refine ⟨hok, hmk, fun t ht htid => ?_⟩
      rcases List.mem_cons.1 ht with rfl | ht
      · exact absurd htid hid
      · exact ha t ht htid

/-- **The loop answers the first number the test lets through.** -/
lemma repetir_spec {l : List Seg} : ∀ {fuel k : ℕ} {r : ℤ},
    repetir rand tamanio id l fuel (k + 1) (rand k) = some r →
      ∃ m, k ≤ m ∧ r = rand m ∧ Acepta l tamanio id (rand m) ∧
        ∀ j, k ≤ j → j < m → ¬ Acepta l tamanio id (rand j)
  | fuel + 1, k, r, h => by
    unfold repetir at h
    cases hr : recorrer rand tamanio id l ⟨k + 1, rand k, true⟩ with
    | none => simp [hr] at h
    | some y =>
      obtain ⟨m, hm, h₁, h₂, h₃, h₄, -⟩ := recorrer_spec hr
      simp only [hr] at h
      by_cases hy : y.memEstaOk = true
      · rw [if_pos hy] at h
        obtain ⟨-, rfl, ha⟩ := h₄ hy
        exact ⟨m, le_rfl, by rw [← Option.some.inj h, h₂], ha,
          fun j hj hj' => absurd hj (not_le.2 hj')⟩
      · rw [if_neg hy, h₁, h₂] at h
        obtain ⟨m', hm', hr', ha, hno⟩ := repetir_spec h
        refine ⟨m', by omega, hr', ha, fun j hj hj' => ?_⟩
        rcases Nat.lt_or_ge j m with hjm | hjm
        · exact h₃ j hj hjm
        · exact hno j hjm hj'

/-- A scan without overflow ends. -/
lemma recorrer_isSome : ∀ {l : List Seg} {k : ℕ} {ok : Bool},
    (∀ j, SinDesborde l tamanio id (rand j)) →
      ∃ y, recorrer rand tamanio id l ⟨k + 1, rand k, ok⟩ = some y
  | [], _, _, _ => ⟨_, rfl⟩
  | s :: l, k, ok, h => by
    have hl : ∀ j, SinDesborde l tamanio id (rand j) :=
      fun j t ht => h j t (List.mem_cons_of_mem s ht)
    unfold recorrer
    by_cases hid : s.idProc = id
    · rw [if_pos hid]
      cases hp : sePisa (rand k) tamanio s with
      | none => exact absurd hp (h k s (List.mem_cons_self ..) hid)
      | some b => cases b <;> exact recorrer_isSome hl
    · rw [if_neg hid]
      exact recorrer_isSome hl

/-- Without overflow the loop reaches the first number the test lets through. -/
lemma repetir_primero {l : List Seg} (hs : ∀ j, SinDesborde l tamanio id (rand j)) {m : ℕ}
    (ha : Acepta l tamanio id (rand m)) : ∀ n k : ℕ, k + n = m →
      (∀ j, k ≤ j → j < m → ¬ Acepta l tamanio id (rand j)) →
      ∃ fuel, repetir rand tamanio id l fuel (k + 1) (rand k) = some (rand m) := by
  intro n
  induction n using Nat.strong_induction_on with
  | _ n ih =>
    intro k hk hno
    have hex : ∃ y, recorrer rand tamanio id l ⟨k + 1, rand k, true⟩ = some y := recorrer_isSome hs
    obtain ⟨y, hy⟩ := hex
    obtain ⟨m', hm', h₁, h₂, h₃, h₄, h₅⟩ := recorrer_spec hy
    -- the scan stops at the number or before it
    have hle : m' ≤ m := by
      by_contra hlt
      exact h₃ m (by omega) (by omega) ha
    by_cases hok : y.memEstaOk = true
    · obtain ⟨-, rfl, hak⟩ := h₄ hok
      have hkm : m' = m := by
        by_contra hne
        exact hno m' le_rfl (by omega) hak
      refine ⟨1, ?_⟩
      rw [repetir, hy]
      simp only [hok, if_true, h₂, hkm]
    · have hlt : k < m' := h₅ (by simpa using hok) rfl
      obtain ⟨fuel, hf⟩ := ih (m - m') (by omega) m' (by omega)
        fun j hj hjm => hno j (by omega) hjm
      refine ⟨fuel + 1, ?_⟩
      rw [repetir, hy]
      simp only [hok, h₁, h₂]
      exact hf

end Sorteo

/-- **`asignarMemoriaAleatoria` keeps off the segments of the process exactly when no number that its
test lets through has a segment inside its range**: for all that `rand()` may answer, and for one
sequence of answers exactly when the first number the test lets through is not of that kind. -/
theorem asignarMemoriaAleatoria_ajena_iff (u : Estado) (h0 : ∀ s ∈ u.listSeg, 0 ≤ s.tamSeg)
    (id tamanio : ℤ) (ht : 1 ≤ tamanio) :
    ((∀ rand : ℕ → ℤ, (∀ k, 0 ≤ rand k ∧ rand k ≤ 2 ^ 31 - 1) → ∀ fuel r,
          asignarMemoriaAleatoria fuel rand tamanio id u = some r →
            Ajena u.listSeg tamanio id r) ↔
        ∀ r, 0 ≤ r → r ≤ 2 ^ 31 - 1 → Acepta u.listSeg tamanio id r →
          ¬ Envuelve u.listSeg tamanio id r) ∧
      ∀ rand : ℕ → ℤ, (∀ k, SinDesborde u.listSeg tamanio id (rand k)) →
        ((∀ fuel r, asignarMemoriaAleatoria fuel rand tamanio id u = some r →
            Ajena u.listSeg tamanio id r) ↔
          ∀ k, Acepta u.listSeg tamanio id (rand k) →
            (∀ j < k, ¬ Acepta u.listSeg tamanio id (rand j)) →
            ¬ Envuelve u.listSeg tamanio id (rand k)) := by
  refine ⟨⟨fun h r hr₀ hr₁ ha => ?_, fun h rand hrand fuel r hr => ?_⟩,
    fun rand hs => ⟨fun h k ha hno => ?_, fun h fuel r hr => ?_⟩⟩
  · -- `rand()` answers the number at once
    have hscan : ∀ l, Acepta l tamanio id r →
        recorrer (fun _ => r) tamanio id l ⟨1, r, true⟩ = some ⟨1, r, true⟩ := by
      intro l hl
      induction l with
      | nil => rfl
      | cons s l ih =>
        have hrest := ih fun t ht => hl t (List.mem_cons_of_mem s ht)
        unfold recorrer
        by_cases hid : s.idProc = id
        · rw [if_pos hid]
          simp only [hl s (List.mem_cons_self ..) hid, hrest]
        · rw [if_neg hid, hrest]
    have hret : asignarMemoriaAleatoria 1 (fun _ => r) tamanio id u = some r := by
      unfold asignarMemoriaAleatoria repetir
      simp only [hscan u.listSeg ha, if_true]
    exact (ha.ajena_iff h0 ht).1 (h (fun _ => r) (fun _ => ⟨hr₀, hr₁⟩) 1 r hret)
  · obtain ⟨m, -, rfl, ha, -⟩ := repetir_spec hr
    exact (ha.ajena_iff h0 ht).2 (h _ (hrand m).1 (hrand m).2 ha)
  · obtain ⟨fuel, hf⟩ := repetir_primero hs ha k 0 (Nat.zero_add k) fun j _ hj => hno j hj
    exact (ha.ajena_iff h0 ht).1 (h fuel _ hf)
  · obtain ⟨m, -, rfl, ha, hno⟩ := repetir_spec hr
    exact (ha.ajena_iff h0 ht).2 (h m ha fun j hj => hno j (Nat.zero_le j) hj)

/-- A segment of four bytes of process 1 at the logical address 100. -/
def enCien : Estado := ⟨fun _ => 0, firstFitMode, [⟨1, 100, 0, 4, TipoDatos.codigoScript⟩], 16⟩

/-- A range that is not longer than the segment has no place for it inside; the first number lies
on the segment and the second does not. -/
theorem asignarMemoriaAleatoria_ajena_enCien :
    asignarMemoriaAleatoria 2 (fun k => if k = 0 then 101 else 108) 4 1 enCien = some 108 ∧
      Ajena enCien.listSeg 4 1 108 := by
  have hiff := (asignarMemoriaAleatoria_ajena_iff enCien (by decide) 1 4 (by decide)).1
  have hret : asignarMemoriaAleatoria 2 (fun k => if k = 0 then 101 else 108) 4 1 enCien
      = some 108 := by decide
  have hrand : ∀ k : ℕ, (0 : ℤ) ≤ (if k = 0 then 101 else 108) ∧
      (if k = 0 then 101 else 108) ≤ (2 : ℤ) ^ 31 - 1 := by
    intro k
    split <;> decide
  refine ⟨hret, hiff.2 ?_ _ hrand 2 108 hret⟩
  rintro r - - - ⟨s, hs, -, -, h₁, h₂⟩
  obtain rfl := List.mem_singleton.1 hs
  simp only at h₁ h₂
  omega

/-- The first number is 98, and ten bytes from there have the segment inside. -/
theorem asignarMemoriaAleatoria_no_ajena_enCien :
    asignarMemoriaAleatoria 1 (fun _ => 98) 10 1 enCien = some 98 ∧
      ¬ Ajena enCien.listSeg 10 1 98 := by
  refine ⟨by decide, fun h => ?_⟩
  have hd := h _ (List.mem_singleton_self _) rfl
  rw [Set.Ico_disjoint_Ico] at hd
  exact absurd hd (by decide)

end Ansisop.Umv
