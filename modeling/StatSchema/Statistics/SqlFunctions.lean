import StatSchema.Catalog.Basic
import StatSchema.Partition

/-!
# `StatSchema.Statistics.SqlFunctions` — SQL functions that the statistics call

## Contents
- **Constants.** `reserveRatio` and `tradeFeeBasisPoints` of the creator coin curve.
- **Functions.** `transactionCount`, `totalSellValue`, `hexToNumeric`, and all in `objects`.
-/

namespace StatSchema.Statistics.SqlFunctions

/-! ## Constants -/

/-- The reserve ratio of the creator coin curve, as it is written in SQL. -/
def reserveRatio : String := "0.3333333"

/-- The fee on a creator coin sale, in hundredths of a percent. -/
def tradeFeeBasisPoints : Nat := 100

/-! ## Functions -/

/-- The estimated number of transactions of one kind, from the statistics of its partition. -/
def transactionCount : SchemaObject :=
  { SchemaObject.function "get_transaction_count" "INT" with
    baseTables := ["pg_class"]
    body := s!"
CREATE OR REPLACE FUNCTION get_transaction_count(transaction_type INT) RETURNS BIGINT AS $$
DECLARE
    estimate BIGINT;
BEGIN
    IF transaction_type < 1 OR transaction_type > {partitionCount} THEN
        RAISE EXCEPTION 'transaction type % is outside 1..{partitionCount}', transaction_type
            USING ERRCODE = 'invalid_parameter_value';
    END IF;

    SELECT reltuples::BIGINT INTO estimate
    FROM pg_class
    WHERE relname = 'transaction_partition_' || LPAD(transaction_type::TEXT, 2, '0');

    RETURN estimate;
END;
$$ LANGUAGE plpgsql STABLE"
    directives := [.hide] }

/-- What selling an amount of a creator coin yields on its curve, less the fee. -/
def totalSellValue : SchemaObject :=
  { SchemaObject.function "cc_nanos_total_sell_value" "NUMERIC, NUMERIC, NUMERIC" with
    body := s!"
CREATE OR REPLACE FUNCTION cc_nanos_total_sell_value(
    amount_nanos NUMERIC,
    deso_locked_nanos NUMERIC,
    coins_in_circulation_nanos NUMERIC
) RETURNS NUMERIC AS $$
    SELECT deso_locked_nanos
        * (1 - POWER(1 - amount_nanos / coins_in_circulation_nanos, 1 / {reserveRatio}))
        * (10000 - {tradeFeeBasisPoints}) / 10000;
$$ LANGUAGE sql IMMUTABLE"
    directives := [.hide] }

/-- The value of a quantity that a transaction writes as a hexadecimal number. -/
def hexToNumeric : SchemaObject :=
  { SchemaObject.function "hex_to_numeric" "TEXT" with
    body := "
CREATE OR REPLACE FUNCTION hex_to_numeric(hex TEXT) RETURNS NUMERIC AS $$
DECLARE
    digits TEXT := lower(regexp_replace(hex, '^0[xX]', ''));
    result NUMERIC := 0;
    i INT;
BEGIN
    IF digits !~ '^[0-9a-f]+$' THEN
        RAISE EXCEPTION 'invalid hex quantity %', hex
            USING ERRCODE = 'invalid_parameter_value';
    END IF;

    FOR i IN 1..length(digits) LOOP
        result := result * 16 + (position(substr(digits, i, 1) IN '0123456789abcdef') - 1);
    END LOOP;

    RETURN result;
END;
$$ LANGUAGE plpgsql IMMUTABLE STRICT"
    directives := [.hide] }

/-- The objects of the group, in creation order. -/
def objects : List SchemaObject :=
  [transactionCount, totalSellValue, hexToNumeric]

end StatSchema.Statistics.SqlFunctions
