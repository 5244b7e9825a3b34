import QueryFilter.Schema.Entity

/-!
# Concerts

The schema that filters are shown on: artists and performances lead back to each other, and
performances to performances.
-/

namespace QueryFilter

def Schema.concerts : Schema :=
  let artist := Entity.declare "artist" "artists"
  let performance := Entity.declare "performance" "performances"
  .ofEntities
    [((artist.withField "id" .bigInteger).withField "name" .string).withAssociation .hasMany
        "performances" "performance" "id" "artist_id",
      (((performance.withField "id" .integer).withField "state" .string).withField "day"
        .date).withAssociation .belongsTo "artist" "artist" "artist_id" "id"
        |>.withAssociation .belongsTo "previous" "performance" "previous_id" "id"]

end QueryFilter
