/-
Whether the preview, the sale and an edit of a bill agree on its totals.

All three call `computePosTotals`, but they do not feed it alike: the sale adds up lines that it has
rounded one by one, an edit takes a tax of 0 as an amount that was settled on, and it rates a line as
the last line of its product and variant was.
-/
import DiscountBazar.Pos.Bills

namespace DiscountBazar.Pos

open Pricing Transaction List BillLine PosTotals

/-! ## The property -/

def PosBreakdown.figures (pb : PosBreakdown) : PosTotals :=
  ⟨pb.productSubtotal, pb.discountTotal, pb.taxTotal, pb.grandTotal⟩

/-- The preview shows what the sale charges, and an edit with the same payload changes nothing. -/
structure Agrees (products : List PosProduct) (payload : PosPayload) (bill : PosBill) : Prop where
  preview : previewPosSale products payload 0 = .ok bill.paymentBreakdown.figures
  edit : ∃ edited, editPosSale products payload bill = .ok edited ∧
    edited.paymentBreakdown.figures = bill.paymentBreakdown.figures

/-! ## The condition -/

/-- The lines of a bill as an edit rates them. -/
def PosBill.rerated (bill : PosBill) : List BillLine :=
  bill.items.map (fun line =>
    { line with
      gstPercent := ((bill.lineWithKey line.key).map gstPercent).getD line.gstPercent })

def rateTax (payload : PosPayload) (lines : List BillLine) : ℤ :=
  let gross := roundCurrency (lines.map amount).sum
  billTax lines gross (gross - min (roundCurrency (payload.discount.getD 0 : ℚ≥0)) gross)
    payload.inclusive payload.percent none

/-- The lines rounded one by one add up to the rounded sum, a tax amount of 0 is only sent where no
rate gives any tax, and where the tax comes from the lines, those of one product and variant differ
in no rate that matters, unless the edit of an exclusive bill keeps to the tax it has. -/
structure InAgreement (payload : PosPayload) (bill : PosBill) : Prop where
  amounts : (bill.items.map (fun line => roundCurrency line.amount)).sum
    = roundCurrency (bill.items.map amount).sum
  untaxed : payload.taxTotal = some 0 → rateTax payload bill.items = 0
  rates : payload.taxTotal = none → ¬ 0 < payload.percent.getD 0 →
    (payload.inclusive = false ∧ payload.taxPercent = none → rateTax payload bill.items = 0) →
      rateTax payload bill.rerated = rateTax payload bill.items

/-! ## Variants -/

theorem meantVariant_sku {variants : List PosVariant} {requestedSku : String} {variant : PosVariant}
    (h : meantVariant variants requestedSku = some variant) :
    meantVariant variants variant.sku = some variant := by
  unfold meantVariant at h ⊢
  by_cases hwanted : normalizedSku requestedSku ≠ ""
  · rw [if_pos hwanted] at h
    have hsame : normalizedSku variant.sku = normalizedSku requestedSku := by
      simpa using find?_some h
    rw [hsame, if_pos hwanted]
    exact h
  · rw [if_neg hwanted] at h
    -- only a lone variant is meant without a name
    match variants, h with
    | [only], h =>
      cases h
      split
      · simp
      · rfl

theorem resolvedSku_self {product : PosProduct} {requestedSku sku : String}
    (h : resolvedSku product requestedSku = .ok sku) : resolvedSku product sku = .ok sku := by
  unfold resolvedSku at h ⊢
  rw [bind_eq_ok] at h
  obtain ⟨resolved, hresolved, hsku⟩ := h
  cases hsku
  unfold resolvePosVariant at hresolved ⊢
  by_cases hvariants : product.variants = []
  · rw [if_pos hvariants] at hresolved
    cases hresolved
    rw [if_pos hvariants]
    rfl
  · rw [if_neg hvariants] at hresolved
    cases hmeant : meantVariant product.variants requestedSku with
    | none =>
      simp only [hmeant] at hresolved
      split at hresolved
      · cases hresolved
      · split at hresolved
        · cases hresolved
        · cases hresolved
    | some variant =>
      simp only [hmeant] at hresolved
      split at hresolved
      next hsku =>
        cases hresolved
        have hself := meantVariant_sku hmeant
        simp only [Option.elim_some, if_neg hvariants, hself, if_pos hsku]
        rfl
      next => cases hresolved

/-! ## The lines of a sale -/

variable {products : List PosProduct} {line : PosLine} {item : HydratedPosItem}

theorem hydratePosItem_eq_ok (h : hydratePosItem products line = .ok item) :
    ∃ product, findProduct products line.productId = some product ∧
      resolvedSku product line.variantSku = .ok item.variantSlot ∧
      item.toBillLine = ⟨line.productId, item.variantSlot, product.name, line.quantity, line.price,
        line.gstPercent.getD product.gstPercent⟩ := by
  unfold hydratePosItem at h
  split at h
  next => cases h
  next product hproduct =>
    rw [bind_eq_ok] at h
    obtain ⟨sku, hsku, h⟩ := h
    cases h
    exact ⟨product, hproduct, hsku, rfl⟩

def FromCatalog (products : List PosProduct) (line : BillLine) : Prop :=
  ∃ product, findProduct products line.product = some product ∧
    resolvedSku product line.variantSlot = .ok line.variantSlot ∧ line.name = product.name

theorem fromCatalog_of_hydrated (h : hydratePosItem products line = .ok item) :
    FromCatalog products item.toBillLine := by
  obtain ⟨product, hproduct, hsku, hitem⟩ := hydratePosItem_eq_ok h
  refine ⟨product, ?_, resolvedSku_self hsku, ?_⟩
  · rw [hitem]
    exact hproduct
  · rw [hitem]

theorem editedLine_of_hydrated {bill : PosBill}
    (hbill : ∀ line ∈ bill.items, FromCatalog products line)
    (h : hydratePosItem products line = .ok item) (hmem : item.toBillLine ∈ bill.items) :
    editedLine products bill line = .ok { item.toBillLine with
      gstPercent := ((bill.lineWithKey item.toBillLine.key).map gstPercent).getD
        item.gstPercent } := by
  obtain ⟨product, hproduct, hsku, hitem⟩ := hydratePosItem_eq_ok h
  -- a key that is on the bill names its variant as the bill does
  have hresolved : editedSku bill product line = .ok item.variantSlot := by
    unfold editedSku
    split
    next hsome =>
      obtain ⟨old, hold⟩ := Option.isSome_iff_exists.mp hsome
      obtain ⟨holdmem, hkey⟩ := lineWithKey_some hold
      obtain ⟨product', hproduct', hself, -⟩ := hbill old holdmem
      have hid : old.product = line.productId := congrArg Prod.fst hkey
      have hslot : old.variantSlot = line.variantSku := congrArg Prod.snd hkey
      rw [hid, hproduct] at hproduct'
      cases hproduct'
      rw [hslot, hsku] at hself
      exact hself.symm
    next => exact hsku
  have hname : (((bill.lineWithKey (line.productId, item.variantSlot)).map name).filter
      (· ≠ "")).getD product.name = product.name := by
    cases hprev : bill.lineWithKey (line.productId, item.variantSlot) with
    | none => rfl
    | some prev =>
      obtain ⟨hprevmem, hkey⟩ := lineWithKey_some hprev
      obtain ⟨product', hproduct', -, hname⟩ := hbill prev hprevmem
      have hid : prev.product = line.productId := congrArg Prod.fst hkey
      rw [hid, hproduct] at hproduct'
      cases hproduct'
      rw [Option.map_some, hname, Option.filter_some]
      split
      · rfl
      · rfl
  -- the line is on the bill, so its key has a last line
  have hkey : item.toBillLine.key = (line.productId, item.variantSlot) := by
    rw [hitem]
    rfl
  have hrate : ((bill.lineWithKey (line.productId, item.variantSlot)).map gstPercent).getD
      product.gstPercent = ((bill.lineWithKey (line.productId, item.variantSlot)).map
        gstPercent).getD item.gstPercent := by
    cases hprev : bill.lineWithKey (line.productId, item.variantSlot) with
    | none =>
      have hnot := find?_eq_none.mp hprev _ (mem_reverse.mpr hmem)
      exact absurd (decide_eq_true hkey) hnot
    | some prev => rfl
  unfold editedLine
  simp only [hproduct, hresolved]
  change Except.ok (mk _ _ _ _ _ _) = _
  have hid : item.product = line.productId := congrArg BillLine.product hitem
  have hitemname : item.name = product.name := congrArg name hitem
  have hquantity : item.quantity = line.quantity := congrArg quantity hitem
  have hprice : item.price = line.price := congrArg price hitem
  rw [hname, hrate, hkey, hid, hitemname, hquantity, hprice]

theorem editPosSale_of_sale {settings : PosSettings} {payload : PosPayload} {couponDiscount : ℚ}
    {bill : PosBill} (h : createPosSale products settings payload couponDiscount = .ok bill) :
    ∃ edited, editPosSale products payload bill = .ok edited ∧
      edited.paymentBreakdown.figures = editedTotals payload bill bill.rerated := by
  obtain ⟨items, hitems, hbill⟩ := createPosSale_eq_ok h
  have hbillitems : bill.items = items.map HydratedPosItem.toBillLine := by rw [hbill]
  have hcatalog : ∀ line ∈ bill.items, FromCatalog products line := by
    intro line hline
    rw [hbillitems] at hline
    obtain ⟨item, hitem, rfl⟩ := mem_map.mp hline
    obtain ⟨line, -, hhydrated⟩ := mem_of_mapM hitems hitem
    exact fromCatalog_of_hydrated hhydrated
  have hlines := mapM_eq_ok_map hitems fun line item hitem hline =>
    editedLine_of_hydrated hcatalog hline (hbillitems ▸ mem_map_of_mem hitem)
  have hrerated : bill.rerated = items.map (fun item => { item.toBillLine with
      gstPercent := ((bill.lineWithKey item.toBillLine.key).map gstPercent).getD
        item.gstPercent }) := by
    unfold PosBill.rerated
    conv_lhs => rw [hbillitems]
    exact map_map ..
  unfold editPosSale
  rw [hlines, ← hrerated]
  exact ⟨_, rfl, rfl⟩

/-! ## The totals -/

section Totals

variable {products : List PosProduct} {settings : PosSettings} {payload : PosPayload} {bill : PosBill}

theorem percent_getD : payload.percent.getD 0 = ((payload.taxPercent.getD 0 : ℚ≥0) : ℚ) := by
  unfold PosPayload.percent
  cases payload.taxPercent with
  | none | some => rfl

/-- The totals of lines that cost `gross`, with the payload's discount and rate. -/
def totalsAt (payload : PosPayload) (lines : List BillLine) (gross : ℤ) (taxPercent taxTotal : Option ℚ) :
    PosTotals :=
  computePosTotals lines (some gross) (payload.discount.getD 0 : ℚ≥0) payload.inclusive taxPercent
    taxTotal

theorem totalsAt_congr (lines : List BillLine) (gross : ℤ) {taxPercent taxPercent' : Option ℚ}
    (h : taxPercent.getD 0 = taxPercent'.getD 0) (taxTotal : Option ℚ) :
    totalsAt payload lines gross taxPercent taxTotal = totalsAt payload lines gross taxPercent' taxTotal := by
  unfold totalsAt computePosTotals billTax
  rw [h]

theorem figures_of_sale (h : createPosSale products settings payload 0 = .ok bill) :
    bill.paymentBreakdown.figures
      = totalsAt payload bill.items (bill.items.map (fun line => roundCurrency line.amount)).sum
          payload.percent (positiveTax payload.taxTotal) := by
  obtain ⟨items, -, rfl⟩ := createPosSale_eq_ok h
  have hpercent : (some ((payload.taxPercent.getD 0 : ℚ≥0) : ℚ)).getD 0 = payload.percent.getD 0 :=
    percent_getD.symm
  have hsum : (items.map (fun item => roundCurrency item.amount)).sum
      = ((items.map HydratedPosItem.toBillLine).map (fun line => roundCurrency line.amount)).sum := by
    rw [map_map]
    rfl
  rw [← totalsAt_congr _ _ hpercent, ← hsum]
  unfold buildPosBreakdown PosBreakdown.figures totalsAt
  rw [zero_add]
  rfl

theorem preview_of_sale (h : createPosSale products settings payload 0 = .ok bill) :
    previewPosSale products payload 0 = .ok (totalsAt payload bill.items
      (roundCurrency (bill.items.map amount).sum) payload.percent
      (positiveTax payload.taxTotal)) := by
  obtain ⟨items, hitems, rfl⟩ := createPosSale_eq_ok h
  unfold previewPosSale
  rw [hitems]
  change Except.ok _ = Except.ok _
  rw [roundCurrency_zero, fromPaise_zero, zero_add]
  rfl

theorem rerated_amounts (bill : PosBill) :
    bill.rerated.map amount = bill.items.map amount := map_map ..

theorem editedTotals_of_sale (h : createPosSale products settings payload 0 = .ok bill) :
    editedTotals payload bill bill.rerated
      = totalsAt payload bill.rerated (roundCurrency (bill.items.map amount).sum)
          (editedPercent payload bill.paymentBreakdown payload.inclusive)
          (asNumber payload.taxTotal) := by
  have hinclusive : payload.isTaxInclusive.getD bill.isTaxInclusive = payload.inclusive := by
    obtain ⟨items, -, rfl⟩ := createPosSale_eq_ok h
    unfold PosPayload.inclusive
    cases payload.isTaxInclusive with
    | none | some => rfl
  -- a bill whose payload names no discount has none
  have hdiscount : (asNumber payload.discount).getD
      (fromPaise bill.paymentBreakdown.discountTotal) = (payload.discount.getD 0 : ℚ≥0) := by
    cases hd : payload.discount with
    | some d => rfl
    | none =>
      have hgross := sum_roundCurrency_nonneg bill.items
      have hfigures := congrArg discountTotal (figures_of_sale h)
      unfold totalsAt computePosTotals at hfigures
      rw [hd] at hfigures
      simp only [Option.getD_none, NNRat.cast_zero, max_self, roundCurrency_zero, Option.getD_some,
        min_eq_left hgross] at hfigures
      change fromPaise bill.paymentBreakdown.figures.discountTotal = _
      rw [hfigures, fromPaise_zero]
      rfl
  unfold editedTotals totalsAt
  dsimp only
  rw [hinclusive, hdiscount, rerated_amounts]

/-! ### The tax -/

def taxableOf (payload : PosPayload) (gross : ℤ) : ℤ :=
  gross - min (roundCurrency (payload.discount.getD 0 : ℚ≥0)) gross

theorem taxableOf_nonneg (gross : ℤ) : 0 ≤ taxableOf payload gross :=
  sub_nonneg.mpr (min_le_right _ _)

theorem totalsAt_eq (lines : List BillLine) (gross : ℤ) (taxPercent taxTotal : Option ℚ) :
    totalsAt payload lines gross taxPercent taxTotal =
      { subtotal := gross
        discountTotal := min (roundCurrency (payload.discount.getD 0 : ℚ≥0)) gross
        taxTotal := billTax lines gross (taxableOf payload gross) payload.inclusive taxPercent taxTotal
        grandTotal :=
          if payload.inclusive then taxableOf payload gross
          else taxableOf payload gross +
            billTax lines gross (taxableOf payload gross) payload.inclusive taxPercent taxTotal } := by
  have hdiscount : max 0 ((payload.discount.getD 0 : ℚ≥0) : ℚ) = (payload.discount.getD 0 : ℚ≥0) :=
    max_eq_right (NNRat.coe_nonneg _)
  unfold totalsAt computePosTotals
  rw [hdiscount]
  rfl

theorem totalsAt_eq_iff (lines lines' : List BillLine) (gross : ℤ)
    (taxPercent taxPercent' taxTotal taxTotal' : Option ℚ) :
    totalsAt payload lines gross taxPercent taxTotal = totalsAt payload lines' gross taxPercent' taxTotal' ↔
      billTax lines gross (taxableOf payload gross) payload.inclusive taxPercent taxTotal
        = billTax lines' gross (taxableOf payload gross) payload.inclusive taxPercent' taxTotal' := by
  rw [totalsAt_eq, totalsAt_eq]
  constructor
  · exact fun h => congrArg PosTotals.taxTotal h
  · intro h
    rw [h]

theorem rateTax_eq {lines : List BillLine} {gross : ℤ}
    (hgross : roundCurrency (lines.map amount).sum = gross) :
    rateTax payload lines
      = billTax lines gross (taxableOf payload gross) payload.inclusive payload.percent none := by
  unfold rateTax taxableOf
  rw [hgross]

theorem taxOn_zero (isTaxInclusive : Bool) (rate : ℚ) : taxOn isTaxInclusive 0 rate = 0 := by
  unfold taxOn
  split
  · rfl
  · split
    · ring
    · ring

theorem lineTax_zero (isTaxInclusive : Bool) (items : List BillLine) :
    lineTax isTaxInclusive items 0 = 0 := by
  have hzero : (items.map (fun i => taxOn isTaxInclusive (i.amount * 0) i.gstPercent)).sum = 0 := by
    refine sum_eq_zero fun x hx => ?_
    obtain ⟨line, -, rfl⟩ := mem_map.mp hx
    rw [mul_zero]
    exact taxOn_zero _ _
  unfold lineTax
  rw [hzero, roundCurrency_zero]

theorem roundCurrency_effective {tax taxable : ℤ} (h : 0 < taxable) :
    roundCurrency (fromPaise taxable * ((tax : ℚ) * 100 / taxable) / 100) = tax := by
  have hne : (taxable : ℚ) ≠ 0 := by exact_mod_cast h.ne'
  have heq : fromPaise taxable * ((tax : ℚ) * 100 / taxable) / 100 = fromPaise tax := by
    unfold fromPaise
    field_simp
  rw [heq, roundCurrency_fromPaise]

theorem billTax_lines {items : List BillLine} {gross taxable : ℤ} {isTaxInclusive : Bool}
    {taxPercent : Option ℚ} (h : ¬ 0 < taxPercent.getD 0) :
    billTax items gross taxable isTaxInclusive taxPercent none
      = lineTax isTaxInclusive items (share gross taxable) := by
  unfold billTax
  exact if_neg h

/-- The edit of an exclusive bill, at the rate that the tax of its lines comes to. -/
theorem effectiveTax_iff (rerated : List BillLine) {items : List BillLine} {gross taxable tax : ℤ}
    (htaxable : 0 ≤ taxable) (htax : tax = lineTax false items (share gross taxable)) :
    billTax rerated gross taxable false
        (some (if 0 < taxable then (tax : ℚ) * 100 / taxable else 0)) none = tax ↔
      (tax = 0 → lineTax false rerated (share gross taxable) = tax) := by
  by_cases hzero : tax = 0
  · -- no tax gives no rate, so the lines are taxed again
    have hrate : ¬ 0 < (some (if 0 < taxable then (tax : ℚ) * 100 / taxable else 0)).getD 0 := by
      simp [hzero]
    rw [billTax_lines hrate]
    exact ⟨fun h _ => h, fun h => h hzero⟩
  · have hpos : 0 < tax := by
      have hnonneg : 0 ≤ tax := htax ▸ lineTax_nonneg false items (share_nonneg htaxable)
      omega
    have hleft : 0 < taxable := by
      refine lt_of_le_of_ne htaxable fun hnone => hzero ?_
      rw [htax, ← hnone]
      unfold share
      rw [Int.cast_zero, zero_div, ite_self]
      exact lineTax_zero false items
    have htaxpos : (0 : ℚ) < tax := by exact_mod_cast hpos
    have hleftpos : (0 : ℚ) < taxable := by exact_mod_cast hleft
    have hrate : 0 < (tax : ℚ) * 100 / taxable := by positivity
    refine ⟨fun _ h => absurd h hzero, fun _ => ?_⟩
    unfold billTax taxOn
    simp only [if_pos hleft, Option.getD_some, if_pos hrate, if_false, Bool.false_eq_true]
    rw [if_neg (not_not.mpr hrate)]
    exact roundCurrency_effective hleft

theorem editedTax_iff {gross : ℤ} {pb : PosBreakdown} {rerated items : List BillLine}
    (hitems : roundCurrency (items.map amount).sum = gross)
    (hrerated : roundCurrency (rerated.map amount).sum = gross)
    (htaxable : pb.productSubtotal - pb.discountTotal = taxableOf payload gross)
    (htax : pb.taxTotal = billTax items gross (taxableOf payload gross) payload.inclusive
      payload.percent (positiveTax payload.taxTotal)) :
    billTax rerated gross (taxableOf payload gross) payload.inclusive
        (editedPercent payload pb payload.inclusive) (asNumber payload.taxTotal) = pb.taxTotal ↔
      (payload.taxTotal = some 0 → rateTax payload items = 0) ∧
        (payload.taxTotal = none → ¬ 0 < payload.percent.getD 0 →
          (payload.inclusive = false ∧ payload.taxPercent = none → rateTax payload items = 0) →
            rateTax payload rerated = rateTax payload items) := by
  rw [rateTax_eq hitems, rateTax_eq hrerated]
  cases hsent : payload.taxTotal with
  | some t =>
    rw [hsent] at htax
    by_cases ht : 0 < t
    · -- both take the amount that was sent
      have hsale : pb.taxTotal = billTax rerated gross (taxableOf payload gross) payload.inclusive
          (editedPercent payload pb payload.inclusive) (asNumber (some t)) := by
        rw [htax]
        unfold positiveTax
        simp only [if_pos ht]
        rfl
      refine ⟨fun _ => ⟨fun hzero => ?_, fun hnone => nomatch hnone⟩, fun _ => hsale.symm⟩
      exact absurd (Option.some.inj hzero) ht.ne'
    · have hzero : t = 0 := le_antisymm (not_lt.mp ht) zero_le
      subst hzero
      have hedit : billTax rerated gross (taxableOf payload gross) payload.inclusive
          (editedPercent payload pb payload.inclusive) (asNumber (some 0)) = 0 := by
        unfold billTax asNumber
        simp [taxableOf_nonneg]
      change pb.taxTotal = billTax items gross (taxableOf payload gross) payload.inclusive
        payload.percent none at htax
      rw [hedit, htax]
      constructor
      · exact fun hnone => ⟨fun _ => hnone.symm, fun hsent => nomatch hsent⟩
      · exact fun h => (h.1 rfl).symm
  | none =>
    rw [hsent] at htax
    change pb.taxTotal = billTax items gross (taxableOf payload gross) payload.inclusive
      payload.percent none at htax
    change billTax rerated gross (taxableOf payload gross) payload.inclusive
      (editedPercent payload pb payload.inclusive) none = _ ↔ _
    have hsimp : ∀ P Q : Prop, ((none : Option ℚ≥0) = some 0 → P) ∧
        ((none : Option ℚ≥0) = none → Q) ↔ Q := by
      intro P Q
      simp
    rw [hsimp]
    by_cases hpercent : 0 < payload.percent.getD 0
    · -- one rate for the whole bill
      have hkept : editedPercent payload pb payload.inclusive = payload.percent := by
        unfold editedPercent
        refine if_neg fun hnone => ?_
        unfold PosPayload.percent at hpercent
        rw [hnone.2.2] at hpercent
        exact lt_irrefl 0 hpercent
      rw [hkept, htax]
      refine ⟨fun _ hnot => absurd hpercent hnot, fun _ => ?_⟩
      unfold billTax
      rw [if_pos hpercent, if_pos hpercent]
    by_cases hkeeps : payload.inclusive = false ∧ payload.taxPercent = none
    · -- the edit keeps the rate that the old tax comes to
      have hedit : editedPercent payload pb payload.inclusive
          = some (if 0 < taxableOf payload gross then
              (pb.taxTotal : ℚ) * 100 / taxableOf payload gross else 0) := by
        unfold editedPercent
        rw [if_pos ⟨hkeeps.1, hsent, hkeeps.2⟩, htaxable]
      rw [billTax_lines hpercent, hkeeps.1] at htax
      have heffective := effectiveTax_iff rerated (taxableOf_nonneg gross) htax
      rw [hedit, billTax_lines hpercent, billTax_lines hpercent, hkeeps.1, ← htax, heffective]
      constructor
      · exact fun h _ hall => h (hall ⟨rfl, hkeeps.2⟩)
      · exact fun h hzero => h hpercent fun _ => hzero
    · have hkept : editedPercent payload pb payload.inclusive = payload.percent := by
        unfold editedPercent
        exact if_neg fun hall => hkeeps ⟨hall.1, hall.2.2⟩
      rw [hkept, htax]
      constructor
      · exact fun hsame _ _ => hsame
      · exact fun h => h hpercent fun hall => absurd hall hkeeps

end Totals

/-- Preview, sale and edit agree exactly where the lines round as their sum does, no tax of 0 takes
the place of a tax by rates, and lines of one product and variant are rated alike. -/
theorem totals_agree_iff (products : List PosProduct) (settings : PosSettings) (payload : PosPayload)
    (bill : PosBill) (hsale : createPosSale products settings payload 0 = .ok bill) :
    Agrees products payload bill ↔ InAgreement payload bill := by
  have hfigures := figures_of_sale hsale
  have hpreview := preview_of_sale hsale
  obtain ⟨edited, hedited, hedit⟩ := editPosSale_of_sale hsale
  rw [editedTotals_of_sale hsale] at hedit
  have hrerated : roundCurrency (bill.rerated.map amount).sum
      = roundCurrency (bill.items.map amount).sum := by rw [rerated_amounts]
  generalize hgross : roundCurrency (bill.items.map amount).sum = gross at *
  -- where the lines add up, only the tax is left to compare
  have htax : (bill.items.map (fun line => roundCurrency line.amount)).sum = gross →
      (edited.paymentBreakdown.figures = bill.paymentBreakdown.figures ↔
        (payload.taxTotal = some 0 → rateTax payload bill.items = 0) ∧
          (payload.taxTotal = none → ¬ 0 < payload.percent.getD 0 →
            (payload.inclusive = false ∧ payload.taxPercent = none → rateTax payload bill.items = 0) →
              rateTax payload bill.rerated = rateTax payload bill.items)) := by
    intro hsum
    rw [hsum] at hfigures
    have hpb := hfigures
    rw [totalsAt_eq] at hpb
    have hsubtotal : bill.paymentBreakdown.productSubtotal = gross := congrArg subtotal hpb
    have hdiscount : bill.paymentBreakdown.discountTotal
        = min (roundCurrency (payload.discount.getD 0 : ℚ≥0)) gross := congrArg discountTotal hpb
    have hbilltax := congrArg taxTotal hpb
    have htaxable : bill.paymentBreakdown.productSubtotal - bill.paymentBreakdown.discountTotal
        = taxableOf payload gross := by
      rw [hsubtotal, hdiscount]
      rfl
    rw [hedit, hfigures, totalsAt_eq_iff, ← editedTax_iff hgross hrerated htaxable hbilltax]
    exact Eq.congr_right hbilltax.symm
  constructor
  · intro h
    have hsame := Except.ok.inj (hpreview.symm.trans h.preview)
    rw [hfigures, totalsAt_eq, totalsAt_eq] at hsame
    have hsum := (congrArg subtotal hsame).symm
    obtain ⟨edited', hedited', hunchanged⟩ := h.edit
    cases hedited.symm.trans hedited'
    obtain ⟨huntaxed, hrates⟩ := (htax hsum).mp hunchanged
    exact ⟨hsum.trans hgross.symm, huntaxed, hrates⟩
  · intro h
    have hsum := h.amounts.trans hgross
    refine ⟨?_, edited, hedited, (htax hsum).mpr ⟨h.untaxed, h.rates⟩⟩
    rw [hpreview, hfigures, hsum]

/-! ## A tax of 0 -/

def kettles : List PosProduct := [{ id := 1, name := "Kettle", gstPercent := 18 }]

/-- A kettle of 100 rupees with GST on top, where the cashier has settled on no tax. -/
def untaxedKettle : PosPayload where
  items := [{ productId := 1, quantity := 1, price := 100 }]
  taxTotal := some 0
  isTaxInclusive := some false

def kettleBill : PosBill where
  items := [⟨1, "", "Kettle", 1, 100, 18⟩]
  isTaxInclusive := false
  paymentBreakdown := ⟨10000, 0, 1800, false, 11800, 11800, 0, 0⟩

theorem untaxedKettle_sold : createPosSale kettles {} untaxedKettle 0 = .ok kettleBill := by
  decide +kernel

theorem totals_agree_iff_kettle :
    Agrees kettles untaxedKettle kettleBill ↔ InAgreement untaxedKettle kettleBill :=
  totals_agree_iff kettles {} untaxedKettle kettleBill untaxedKettle_sold

/-- The edit takes the tax off the bill. -/
theorem kettle_totals_differ :
    ¬ ∀ (products : List PosProduct) (settings : PosSettings) (payload : PosPayload) (bill : PosBill),
      createPosSale products settings payload 0 = .ok bill → Agrees products payload bill := by
  intro agrees
  obtain ⟨edited, hedited, hsame⟩ := (agrees kettles {} untaxedKettle kettleBill untaxedKettle_sold).edit
  have hfigures : (editPosSale kettles untaxedKettle kettleBill).toOption.map
      (fun bill => bill.paymentBreakdown.figures) = some ⟨10000, 0, 0, 10000⟩ := by
    decide +kernel
  rw [hedited] at hfigures
  have hedit : edited.paymentBreakdown.figures = ⟨10000, 0, 0, 10000⟩ := Option.some.inj hfigures
  rw [hsame] at hedit
  exact absurd hedit (by decide)

end DiscountBazar.Pos
