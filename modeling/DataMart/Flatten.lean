import DataMart.Text.Joined

/-!
# Flattening queries

A mart is filled by queries that join the normalized tables of the source into wide rows. There are
two layouts. The flat one has a single table with a row for every product line of a sale; the split
one has a table of sales and a table of product lines, each line with a few attributes of its sale.
All of them take completed sales only, and join sales and product lines on the same key, so that
figures from either layout agree.
-/

namespace DataMart

/-- Which payment's type a sale with several payments gets. -/
inductive PaymentPolicy where
  /-- Whichever the source gives first. -/
  | firstFound
  /-- The one with the lowest id. -/
  | lowestPaymentId
  deriving DecidableEq, Repr

/-- What happens to completed sales without product lines. -/
inductive ProductlessSales where
  /-- They give no rows. -/
  | drop
  /-- They give one row without a product. -/
  | keep
  deriving DecidableEq, Repr

/-- Which tables a mart has. -/
inductive Layout where
  | flat
  | split
  deriving DecidableEq, Repr

/-- The choices baked into every flattening query. -/
structure FlattenPolicy where
  payment : PaymentPolicy := .firstFound
  productless : ProductlessSales := .drop
  /-- The highest sale id taken, for sampled builds. -/
  maxSaleId : Option Int := none
  deriving DecidableEq, Repr

/-- A source query and the mart table that it fills. -/
structure TableSpec where
  query : String
  table : String
  deriving DecidableEq, Repr

/-- The table of the flat layout. -/
def salesMartTable : String := "sales_mart"

/-- The table of sales in the split layout. -/
def salesTable : String := "fct_sales"

/-- The table of product lines in the split layout. -/
def productSalesTable : String := "fct_product_sales"

namespace Flatten

/-- The status of a sale that counts. -/
def completedStatus : String := "COMPLETED"

/-- The key on which sales and product lines are joined. -/
def joinKey : String := "sale_id"

/-- Lines of a query. A block of columns or tables that several queries share starts at the left
margin, wherever it is put. -/
def lines (ls : List String) : String := Text.joinWith "\n" ls

/-- The condition on sales: completed, and within the sample if there is one. -/
def completedFilter (p : FlattenPolicy) : String :=
  "s.sale_status_desc = '" ++ completedStatus ++ "'" ++
    match p.maxSaleId with
    | some max => " AND s.id <= " ++ toString max
    | none => ""

/-- The subquery that gives a sale exactly one payment type. -/
def paymentSubquery (p : PaymentPolicy) : String :=
  "(SELECT pt.description FROM payments p JOIN payment_types pt ON p.payment_type_id = pt.id " ++
    "WHERE p.sale_id = s.id" ++
    (match p with
      | .firstFound => ""
      | .lowestPaymentId => " ORDER BY p.id") ++
    " LIMIT 1)"

/-- The join between sales under an alias and their product lines. -/
def productJoin (sales : String) (p : ProductlessSales) : String :=
  (match p with
    | .drop => "JOIN"
    | .keep => "LEFT JOIN") ++
    " products_base pb ON " ++ sales ++ "." ++ joinKey ++ " = pb." ++ joinKey

/-- The columns that place a sale in time. -/
def calendarColumns : List String := [
  "EXTRACT(DOW FROM s.created_at)::int AS dia_da_semana,",
  "        CASE EXTRACT(DOW FROM s.created_at)::int",
  "            WHEN 0 THEN 'Domingo'",
  "            WHEN 1 THEN 'Segunda'",
  "            WHEN 2 THEN 'Terça'",
  "            WHEN 3 THEN 'Quarta'",
  "            WHEN 4 THEN 'Quinta'",
  "            WHEN 5 THEN 'Sexta'",
  "            WHEN 6 THEN 'Sábado'",
  "        END AS dia_da_semana_nome,",
  "        TO_CHAR(s.created_at, 'YYYY-MM') AS mes_ano,",
  "        EXTRACT(HOUR FROM s.created_at)::int AS hora_do_dia,",
  "        DATE(s.created_at) AS data_venda,",
  "        CASE",
  "            WHEN EXTRACT(HOUR FROM s.created_at) BETWEEN 0 AND 5 THEN 'Madrugada'",
  "            WHEN EXTRACT(HOUR FROM s.created_at) BETWEEN 6 AND 11 THEN 'Manhã'",
  "            WHEN EXTRACT(HOUR FROM s.created_at) BETWEEN 12 AND 17 THEN 'Almoço'",
  "            ELSE 'Jantar'",
  "        END AS periodo_do_dia,"]

/-- The columns that measure a sale. -/
def measureColumns : List String := [
  "s.sale_status_desc,",
  "        s.total_amount::float8 AS sale_total_amount,",
  "        s.total_discount::float8 AS total_discount,",
  "        s.discount_reason,",
  "        s.delivery_fee::float8 AS delivery_fee,",
  "        s.service_tax_fee::float8 AS service_tax_fee,",
  "        s.production_seconds,",
  "        s.delivery_seconds,"]

/-- The tables that a sale is put together from. -/
def saleTables : List String := [
  "FROM sales s",
  "    JOIN stores st ON s.store_id = st.id",
  "    JOIN channels ch ON s.channel_id = ch.id",
  "    LEFT JOIN delivery_addresses da ON s.id = da.sale_id"]

/-- Product lines, the options of a line collapsed into it. -/
def productsBase : List String := [
  "products_base AS (",
  "    SELECT",
  "        ps.sale_id,",
  "        p.id AS product_id,",
  "        p.name AS product_name,",
  "        cat.name AS product_category,",
  "        ps.quantity AS product_quantity,",
  "        ps.base_price::float8 AS product_base_price,",
  "        ps.total_price::float8 AS product_total_price,",
  "        STRING_AGG(i.name, ', ') AS items_names,",
  "        SUM(ips.additional_price)::float8 AS items_total_additional_price",
  "    FROM product_sales ps",
  "    JOIN products p ON ps.product_id = p.id",
  "    LEFT JOIN categories cat ON p.category_id = cat.id",
  "    LEFT JOIN item_product_sales ips ON ps.id = ips.product_sale_id",
  "    LEFT JOIN items i ON ips.item_id = i.id",
  "    GROUP BY ps.id, ps.sale_id, p.id, p.name, cat.name, ps.quantity, ps.base_price, ps.total_price",
  ")"]

/-- Sales with all their attributes. -/
def salesBase (p : FlattenPolicy) : List String :=
  ["sales_base AS (",
    "    SELECT",
    "        s.id AS sale_id,",
    "        s.created_at AS sale_created_at,"] ++
  calendarColumns ++ measureColumns ++
  ["        st.name AS store_name,",
    "        st.city AS store_city,",
    "        ch.name AS channel_name,",
    "        ch.type AS channel_type,",
    "        s.customer_id,",
    "        da.neighborhood AS delivery_neighborhood,",
    "        da.city AS delivery_city,",
    "        " ++ paymentSubquery p.payment ++ " AS payment_type"] ++
  saleTables ++
  ["    WHERE " ++ completedFilter p,
    ")"]

/-- Sales with the few attributes that a product line repeats. -/
def salesDims (p : FlattenPolicy) : List String :=
  ["sales_dims AS (",
    "    SELECT",
    "        s.id AS sale_id,",
    "        s.created_at AS sale_created_at,",
    "        TO_CHAR(s.created_at, 'YYYY-MM') AS mes_ano,",
    "        DATE(s.created_at) AS data_venda,",
    "        st.name AS store_name,",
    "        ch.name AS channel_name,",
    "        ch.type AS channel_type,",
    "        da.neighborhood AS delivery_neighborhood"] ++
  saleTables ++
  ["    WHERE " ++ completedFilter p,
    ")"]

/-- The columns of a product line. -/
def productColumns : List String := [
  "pb.product_id,",
  "    pb.product_name,",
  "    pb.product_category,",
  "    pb.product_quantity,",
  "    pb.product_base_price,",
  "    pb.product_total_price,",
  "    pb.items_names"]

/-- The query of the flat table. -/
def salesMartQuery (p : FlattenPolicy) : String :=
  "WITH " ++ lines (salesBase p) ++ ",\n" ++ lines productsBase ++ "\n" ++
    lines (["SELECT", "    sb.*,"]) ++ "\n" ++ lines productColumns ++ ",\n" ++
    lines ["    pb.items_total_additional_price", "FROM sales_base sb",
      productJoin "sb" p.productless]

/-- The query of the table of sales. -/
def salesQuery (p : FlattenPolicy) : String :=
  "WITH " ++ lines (salesBase p) ++ "\nSELECT * FROM sales_base"

/-- The query of the table of product lines. -/
def productSalesQuery (p : FlattenPolicy) : String :=
  "WITH " ++ lines productsBase ++ ",\n" ++ lines (salesDims p) ++ "\n" ++
    lines (["SELECT", "    sd.*,"] ++ productColumns ++
      ["FROM sales_dims sd", productJoin "sd" p.productless])

end Flatten

namespace Layout

/-- The layout of a given name, in any case of its letters. -/
def ofName? (name : String) : Option Layout :=
  if Text.fold name = "flat" then some flat
  else if Text.fold name = "split" then some split
  else none

/-- What is said about a name that is no layout. -/
def unknownMessage (name : String) : String :=
  "unknown layout '" ++ Text.fold name ++ "', expected flat or split"

/-- The names of the tables, in the order in which they are filled. -/
def tableNames : Layout → List String
  | flat => [salesMartTable]
  | split => [salesTable, productSalesTable]

/-- What is to be loaded, in order. -/
def tableSpecs (p : FlattenPolicy) : Layout → List TableSpec
  | flat => [⟨Flatten.salesMartQuery p, salesMartTable⟩]
  | split =>
    [⟨Flatten.salesQuery p, salesTable⟩, ⟨Flatten.productSalesQuery p, productSalesTable⟩]

/-- The specs fill the layout's tables in order. -/
theorem tableSpecs_map_table (p : FlattenPolicy) (l : Layout) :
    (l.tableSpecs p).map TableSpec.table = l.tableNames := by
  cases l <;> rfl

end Layout

end DataMart
