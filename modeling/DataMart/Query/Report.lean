import DataMart.Flatten
import DataMart.Query.Plan

/-!
# The report catalog

A `Report` is a request from a fixed list, over columns that a mart is known to have. What a caller
supplies, such as a month, is bound as a value and never becomes part of the text.
-/

namespace DataMart

/-- A report of the catalog. -/
inductive Report where
  | kpiSummary
  | salesByStore
  | salesByChannel
  | salesByMonth
  | topProductsByRevenue
  | salesByPaymentType
  | salesByDay
  | topCustomers
  | deliveryByNeighborhood
  deriving DecidableEq, Repr

/-- What a caller may say about a report. -/
structure ReportArgs where
  /-- The month, `YYYY-MM`, of the daily report. -/
  month : Option String := none
  /-- Best first instead of worst first, for deliveries. -/
  ascending : Bool := false

namespace Report

/-- The catalog, in its order. -/
def all : List Report :=
  [kpiSummary, salesByStore, salesByChannel, salesByMonth, topProductsByRevenue,
    salesByPaymentType, salesByDay, topCustomers, deliveryByNeighborhood]

/-- The name under which a report is asked for. -/
def name : Report → String
  | kpiSummary => "kpi_summary"
  | salesByStore => "sales_by_store"
  | salesByChannel => "sales_by_channel"
  | salesByMonth => "sales_by_month"
  | topProductsByRevenue => "top_products_by_revenue"
  | salesByPaymentType => "sales_by_payment_type"
  | salesByDay => "sales_by_day"
  | topCustomers => "top_customers"
  | deliveryByNeighborhood => "delivery_by_neighborhood"

/-- What a report shows. -/
def description : Report → String
  | kpiSummary => "Revenue, average ticket, sale count and delivery time"
  | salesByStore => "Revenue and sale count per store"
  | salesByChannel => "Revenue and sale count per channel"
  | salesByMonth => "Revenue per month"
  | topProductsByRevenue => "Top 20 products by revenue"
  | salesByPaymentType => "Revenue per payment type"
  | salesByDay => "Daily revenue per channel for one month (--month YYYY-MM)"
  | topCustomers => "Customers by purchase count with last purchase"
  | deliveryByNeighborhood =>
    "Average delivery minutes per neighborhood, worst first (--ascending for best)"

/-- The report of a given name. -/
def ofName (s : String) : Except Fault Report :=
  match all.find? fun r => r.name == s with
  | some r => .ok r
  | none => .error (.unknownReport s)

/-- The table that a report reads. -/
def table : Report → String
  | topProductsByRevenue => productSalesTable
  | _ => salesTable

/-- The limit of a report that gives every group. -/
def allGroups : Nat := 1000

/-- Neighborhoods with this many deliveries or fewer are left out. -/
def minDeliveries : Int := 5

/-- The revenue of a group of sales. -/
def revenue : String := "SUM(sale_total_amount) AS faturamento"

/-- The number of sales of a group. -/
def saleCount : String := "COUNT(sale_id) AS total_vendas"

/-- The request behind a report. -/
def request (args : ReportArgs) : Report → Except Fault Request
  | kpiSummary => .ok {
      metrics := [
        "SUM(sale_total_amount) AS faturamento_total",
        "AVG(sale_total_amount) AS ticket_medio",
        saleCount,
        "AVG(delivery_seconds / 60.0) AS avg_tempo_entrega_min"]
      limit := some 1 }
  | salesByStore => .ok {
      metrics := [revenue, saleCount]
      dimensions := ["store_name"]
      orderBy := [⟨"faturamento", "desc"⟩]
      limit := some allGroups }
  | salesByChannel => .ok {
      metrics := [revenue, saleCount]
      dimensions := ["channel_name"]
      orderBy := [⟨"faturamento", "desc"⟩]
      limit := some allGroups }
  | salesByMonth => .ok {
      metrics := [revenue]
      dimensions := ["mes_ano"]
      orderBy := [⟨"mes_ano", "asc"⟩]
      limit := some allGroups }
  | topProductsByRevenue => .ok {
      metrics := ["SUM(product_total_price) AS faturamento"]
      dimensions := ["product_name"]
      orderBy := [⟨"faturamento", "desc"⟩]
      limit := some 20 }
  | salesByPaymentType => .ok {
      metrics := [revenue]
      dimensions := ["COALESCE(payment_type, 'Não Identificado') AS forma_pagamento"]
      orderBy := [⟨"faturamento", "desc"⟩]
      limit := some allGroups }
  | salesByDay =>
    match args.month with
    | none => .error (.invalidRequest "report 'sales_by_day' needs a month (YYYY-MM)")
    | some month => .ok {
        metrics := [revenue]
        dimensions := ["data_venda", "channel_name"]
        filters := [⟨"mes_ano", "eq", .text month⟩]
        orderBy := [⟨"data_venda", "asc"⟩, ⟨"channel_name", "asc"⟩]
        limit := some allGroups }
  | topCustomers => .ok {
      metrics := [saleCount, "MAX(sale_created_at) AS ultima_compra_data"]
      dimensions := ["customer_id"]
      orderBy := [⟨"total_vendas", "desc"⟩]
      limit := some 100 }
  | deliveryByNeighborhood => .ok {
      metrics := [
        "AVG(delivery_seconds / 60.0) AS tempo_medio_min",
        "COUNT(sale_id) AS total_entregas"]
      dimensions := ["delivery_neighborhood"]
      filters := [⟨"channel_type", "eq", .text "D"⟩, ⟨"delivery_neighborhood", "not_null", .null⟩]
      having := [⟨"total_entregas", "gt", .ofInt minDeliveries⟩]
      orderBy := [⟨"tempo_medio_min", if args.ascending then "asc" else "desc"⟩]
      limit := some 20 }

/-- The statement behind a report. -/
def compile (r : Report) (args : ReportArgs) : Except Fault Statement := do
  let request ← r.request args
  Compiler.compile { table := r.table } request

/-- Every report is found under its name. -/
theorem ofName_name (r : Report) : ofName r.name = .ok r := by
  cases r <;> simp [ofName, all, name]

end Report

end DataMart
