import StatSchema.Catalog.Basic

/-!
# `StatSchema.Statistics.FirstAppearance` — when each public key first appeared

A table holds, for every public key, the earliest block that concerns it. It is filled once when it is
created; afterwards a function adds the keys that have appeared since. Rows are only ever added, so a
key keeps the block that it was given first.

## Contents
- `watermark`, `insertion`: the statement that adds keys.
- `table`, `topUp`, and the two together in `objects`.
-/

namespace StatSchema.Statistics.FirstAppearance

/-- The name of the table. -/
def tableName : String := "public_key_first_transaction"

/-- The condition that restricts the blocks to those after the latest one that the table knows. -/
def watermark : String :=
  "\n    WHERE b.timestamp > (SELECT COALESCE(MAX(timestamp), '-infinity'::TIMESTAMP) FROM public_key_first_transaction)"

/-- The statement that adds the keys of the blocks that meet `condition`. -/
def insertion (condition : String) : String :=
  s!"INSERT INTO public_key_first_transaction (public_key, timestamp, height)
    SELECT apk.public_key, MIN(b.timestamp), MIN(b.height)
    FROM affected_public_key apk
    JOIN transaction t ON t.transaction_hash = apk.transaction_hash
    JOIN block b ON b.block_hash = t.block_hash{condition}
    GROUP BY apk.public_key
    ON CONFLICT (public_key) DO NOTHING"

/-- The table, filled when it is created. -/
def table : SchemaObject :=
  { SchemaObject.table tableName with
    baseTables := ["affected_public_key", "transaction", "block"]
    body := "
CREATE TABLE public_key_first_transaction (
    public_key VARCHAR PRIMARY KEY,
    timestamp TIMESTAMP NOT NULL,
    height BIGINT NOT NULL
)"
    afterCreate :=
      ["CREATE INDEX public_key_first_transaction_timestamp_idx ON public_key_first_transaction (timestamp DESC)",
       insertion ""]
    directives := [.hide] }

/-- The function that adds the keys of new blocks. -/
def topUp : SchemaObject :=
  let addition := insertion watermark
  { SchemaObject.function "refresh_public_key_first_transaction" "" with
    dependsOn := [tableName]
    baseTables := ["affected_public_key", "transaction", "block"]
    body := s!"
CREATE OR REPLACE FUNCTION refresh_public_key_first_transaction() RETURNS VOID AS $$
BEGIN
    {addition};
END;
$$ LANGUAGE plpgsql"
    directives := [.hide] }

/-- The objects of the group, in creation order. -/
def objects : List SchemaObject :=
  [table, topUp]

end StatSchema.Statistics.FirstAppearance
